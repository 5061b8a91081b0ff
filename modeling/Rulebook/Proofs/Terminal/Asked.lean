/-
  Rulebook.Proofs.Terminal.Asked

  What a command line means (`Call.Means`): where the list is kept, and what the editor is asked for.

  The grammar gives texts by keys, and from these the rest is known.  Each verb stands for one
  command; positions count from one on the command line and from zero in the list.  The options of a
  rule give the fields that they are about, and no others (`Gives`), so a command never gives a field
  a value that does not fit into a rule (`modest_command`).
-/
import Rulebook.Proofs.Editor.Made
import Rulebook.Proofs.Rule.Storable
import Rulebook.Terminal.Run

namespace Rulebook.Terminal

open Storage

/-! ## Options -/

/-- The names of the fields that options are about. -/
def optionFields : List Name :=
  ["type", "match_value", "action", "rewrite_header", "rewrite_value", "description"]

/-- The fields that are given by the options of a command line: each one as its option says, if it
is there, and nothing else. -/
structure Gives (g : Given) (values : Entries) : Prop where
  ruleType : values.get? "type" = (g.said "type").field?
  matchValue : values.get? "match_value" = (g.said "match").field?
  action : values.get? "action" = (g.said "action").field?
  header : values.get? "rewrite_header" = (g.said "header").field?
  rewrite : values.get? "rewrite_value" = (g.said "rewrite").field?
  description : values.get? "description" = (g.said "description").field?
  names : (Record.keys values).Sublist optionFields

/-- The fields that are given, out of those with the names that are listed. -/
def given (fields : List (String × Said String)) : Entries :=
  fields.filterMap fun (name, said) => said.field?.map fun v => (.text name, v)

theorem given_nil : given [] = [] := rfl

/-- The field of an option comes first if it is given. -/
theorem given_cons (name : String) (said : Said String) (rest : List (String × Said String)) :
    given ((name, said) :: rest) =
      (said.field?.map fun v => (Name.text name, v)).toList ++ given rest := by
  cases said <;> rfl

theorem get?_given_cons (name : String) (said : Said String) (rest : List (String × Said String))
    (key : Name) :
    (given ((name, said) :: rest)).get? key =
      if Name.text name == key then said.field?.or ((given rest).get? key)
      else (given rest).get? key := by
  rw [given_cons]
  cases said.field? with
  | none => exact (ite_self _).symm
  | some v => rfl

theorem keys_given (fields : List (String × Said String)) :
    (Record.keys (given fields)).Sublist (fields.map fun f => .text f.1) := by
  induction fields with
  | nil => exact List.Sublist.slnil
  | cons f rest ih =>
    rw [given_cons]
    cases f.2.field? with
    | none => exact ih.cons _
    | some v => exact ih.cons_cons _

theorem values_eq_given (o : RuleOptions) :
    o.values = given [("type", o.ruleType), ("match_value", o.matchValue), ("action", o.action),
      ("rewrite_header", o.header), ("rewrite_value", o.rewrite),
      ("description", o.description)] := rfl

theorem keys_values (o : RuleOptions) : (Record.keys o.values).Sublist optionFields := by
  rw [values_eq_given]
  exact keys_given _

/-- No field is given twice. -/
theorem distinct_values (o : RuleOptions) : Record.Distinct (Record.keys o.values) :=
  List.Pairwise.sublist (keys_values o) (by decide : Record.Distinct optionFields)

theorem gives_values (g : Given) : Gives g g.ruleOptions.values := by
  constructor
  case names => exact keys_values _
  all_goals
    rw [values_eq_given]
    simp +decide [get?_given_cons, given_nil, Given.ruleOptions]

/-! ## Verbs -/

/-- What a command line asks of the editor, with what the user answers if there is a question.  A
deletion asks unless it is told not to, and a user who breaks off has not declined it.  A state that
is left blank is off, and without a target there is nowhere to move to. -/
inductive Asks (consent : Consent) (g : Given) : Except Fault (Option Editor.Command) → Prop where
  | list (h : g.text? "command" = some "list") : Asks consent g (.ok none)
  | add {values : Entries} (h : g.text? "command" = some "add") (h_values : Gives g values) :
      Asks consent g (.ok (some (.add (.mapping values))))
  | edit {n : Int} {values : Entries} (h : g.text? "command" = some "edit")
      (h_position : g.position? "position" = some n) (h_values : Gives g values) :
      Asks consent g (.ok (some (.update (n - 1) (.mapping values))))
  | deleteUnasked {n : Int} (h : g.text? "command" = some "delete")
      (h_position : g.position? "position" = some n) (h_yes : g.has "yes" = true) :
      Asks consent g (.ok (some (.delete (n - 1) none)))
  | delete {n : Int} (h : g.text? "command" = some "delete")
      (h_position : g.position? "position" = some n) (h_yes : g.has "yes" = false)
      (h_consent : consent ≠ .no) : Asks consent g (.ok (some (.delete (n - 1) (some true))))
  | deleteDeclined {n : Int} (h : g.text? "command" = some "delete")
      (h_position : g.position? "position" = some n) (h_yes : g.has "yes" = false)
      (h_consent : consent = .no) : Asks consent g (.ok (some (.delete (n - 1) (some false))))
  | up {n : Int} (h : g.text? "command" = some "up")
      (h_position : g.position? "position" = some n) : Asks consent g (.ok (some (.moveUp (n - 1))))
  | down {n : Int} (h : g.text? "command" = some "down")
      (h_position : g.position? "position" = some n) :
      Asks consent g (.ok (some (.moveDown (n - 1))))
  | move {source target : Int} (h : g.text? "command" = some "move")
      (h_source : g.position? "source" = some source)
      (h_target : g.position? "target" = some target) :
      Asks consent g (.ok (some (.relocate (source - 1) (target - 1) (g.has "after"))))
  | moveNowhere {source : Int} (h : g.text? "command" = some "move")
      (h_source : g.position? "source" = some source) (h_target : g.position? "target" = none) :
      Asks consent g (.error .noTarget)
  | toggle {n : Int} (h : g.text? "command" = some "toggle")
      (h_position : g.position? "position" = some n) :
      Asks consent g (.ok (some (.toggle (n - 1) (.bool (g.text? "state" == some "on")))))

/-- **What each verb asks for.** -/
theorem asks_of_verb? {g : Given} {verb : Verb} (h : g.verb? = some verb) (consent : Consent) :
    Asks consent g (verb.command consent) := by
  obtain ⟨word, h_word, h⟩ := Option.bind_eq_some_iff.1 h
  -- What comes after the word depends on it; each verb but two takes a position.
  split at h
  case h_1 =>
    obtain rfl := Option.some.inj h
    exact .list h_word
  case h_2 =>
    obtain rfl := Option.some.inj h
    exact .add h_word (gives_values g)
  case h_3 =>
    obtain ⟨n, h_position, h⟩ := Option.bind_eq_some_iff.1 h
    obtain rfl := Option.some.inj h
    exact .edit h_word h_position (gives_values g)
  case h_4 =>
    obtain ⟨n, h_position, h⟩ := Option.bind_eq_some_iff.1 h
    obtain rfl := Option.some.inj h
    cases h_yes : g.has "yes" with
    | true => exact .deleteUnasked h_word h_position h_yes
    | false =>
      cases consent with
      | no => exact .deleteDeclined h_word h_position h_yes rfl
      | yes | interrupt => exact .delete h_word h_position h_yes nofun
  case h_5 =>
    obtain ⟨n, h_position, h⟩ := Option.bind_eq_some_iff.1 h
    obtain rfl := Option.some.inj h
    exact .up h_word h_position
  case h_6 =>
    obtain ⟨n, h_position, h⟩ := Option.bind_eq_some_iff.1 h
    obtain rfl := Option.some.inj h
    exact .down h_word h_position
  case h_7 =>
    obtain ⟨source, h_source, h⟩ := Option.bind_eq_some_iff.1 h
    obtain rfl := Option.some.inj h
    cases h_target : g.position? "target" with
    | none => exact .moveNowhere h_word h_source h_target
    | some target => exact .move h_word h_source h_target
  case h_8 =>
    obtain ⟨n, h_position, h⟩ := Option.bind_eq_some_iff.1 h
    obtain rfl := Option.some.inj h
    have h_state : ((g.text? "state").map fun word => decide (word = "on")).getD false =
        (g.text? "state" == some "on") := by
      cases g.text? "state" with
      | none => rfl
      | some word => exact (beq_eq_decide word "on").symm
    rw [Verb.command, h_state]
    exact .toggle h_word h_position
  case h_9 => exact nomatch h

/-! ## Places -/

/-- The value of an option, null if it is not there. -/
def Given.field (g : Given) (key : String) : Value :=
  (g.said key).field?.getD .null

/-- Where a list is kept, by the options of a command line and the settings.  An address that counts
as given comes first, but one in the settings only if no database is named; a list is fetched from
where it is posted to unless there is another address for that.  Without a file the usual one is
meant. -/
inductive Keeps (g : Given) (s : Settings) : Place → Prop where
  | remote {r : Remote} (h_save : [g.field "url", s.saveUrl].find? Value.truth = some r.saveUrl)
      (h_database : (g.field "url").truth = true ∨ g.text? "db" = none)
      (h_load : r.loadUrl =
        ([g.field "load_url", s.loadUrl].find? Value.truth).getD r.saveUrl)
      (h_key : r.apiKey = none) : Keeps g s (.remote r)
  | database {path : String} (h_url : (g.field "url").truth = false)
      (h_path : g.text? "db" = some path) : Keeps g s (.database (.ofText path) s.ruleKey)
  | file {path : String} (h_urls : [g.field "url", s.saveUrl].find? Value.truth = none)
      (h_database : g.text? "db" = none) (h_path : g.said "file" = .value path) :
      Keeps g s (.file (.ofText path))
  | defaultFile (h_urls : [g.field "url", s.saveUrl].find? Value.truth = none)
      (h_database : g.text? "db" = none) (h_path : g.said "file" = .nothing) :
      Keeps g s (.file (.ofText "rules.json"))

/-- What a command line says is what its grammar gives. -/
structure Says (g : Given) (a : Arguments) : Prop where
  verb : g.verb? = some a.verb
  file : a.file =
    match g.said "file" with
    | .nothing => some (.ofText defaultFile)
    | .blank => none
    | .value text => some (.ofText text)
  database : a.database = (g.said "db").map .ofText
  url : a.url = g.said "url"
  loadUrl : a.loadUrl = g.said "load_url"

theorem says_of_read {args : List String} {a : Arguments} (h : Arguments.read args = .ok a) :
    ∃ g, mainGrammar.read args = .ok g ∧ Says g a := by
  obtain ⟨g, h_read, h⟩ := bind_eq_ok_iff.1 h
  refine ⟨g, h_read, ?_⟩
  by_cases h_unexpected : g.unexpected = true
  · rw [if_pos h_unexpected] at h
    exact nomatch h
  · rw [if_neg h_unexpected] at h
    cases h_verb : g.verb? with
    | none =>
      rw [h_verb] at h
      exact nomatch h
    | some verb =>
      rw [h_verb] at h
      obtain rfl := Except.ok.inj h
      exact ⟨h_verb, rfl, rfl, rfl, rfl⟩

theorem value?_map {α β : Type} (f : α → β) (said : Said α) :
    (said.map f).value? = said.value?.map f := by
  cases said <;> rfl

/-- The first one of two values that counts as given. -/
theorem find?_truth (v w : Value) :
    [v, w].find? Value.truth = if (v.orElse w).truth then some (v.orElse w) else none := by
  unfold Value.orElse
  by_cases hv : v.truth = true
  · simp [hv]
  · by_cases hw : w.truth = true
    · simp [hv, hw]
    · simp [hv, hw]

/-- A list on the other side of a connection, by the addresses that are given. -/
theorem keeps_remote {g : Given} {s : Settings} (h_url : (g.field "url").truth = true ∨
      s.saveUrl.truth = true ∧ g.text? "db" = none) :
    Keeps g s (.remote (.new ((g.field "url").orElse s.saveUrl)
      ((g.field "load_url").orElse s.loadUrl))) := by
  have h_truth : ((g.field "url").orElse s.saveUrl).truth = true := by
    unfold Value.orElse
    split
    · assumption
    · exact h_url.elim (fun h => absurd h ‹_›) And.left
  refine .remote ?_ (h_url.imp id And.right) ?_ rfl
  · rw [find?_truth, if_pos h_truth]
    rfl
  · rw [find?_truth]
    by_cases h_load : ((g.field "load_url").orElse s.loadUrl).truth = true
    · rw [if_pos h_load]
      exact if_pos h_load
    · rw [if_neg h_load]
      exact if_neg h_load

/-- **Where each command line keeps its list.** -/
theorem keeps_of_choose {g : Given} {a : Arguments} {s : Settings} {place : Place} (h : Says g a)
    (h_place : Place.choose? a s = some place) : Keeps g s place := by
  have h_database : a.database.value? = (g.text? "db").map .ofText := by
    rw [h.database, value?_map]
    rfl
  have h_field (key : String) : (g.said key).field?.getD .null = g.field key := rfl
  simp only [Place.choose?, h.url, h.loadUrl, h_database, h_field] at h_place
  -- First come addresses, then a database; a file is left when there is neither.
  split at h_place
  · rename_i h_url
    obtain rfl := Option.some.inj h_place
    exact keeps_remote (by simpa using h_url)
  · rename_i h_url
    rw [Bool.or_eq_true, not_or, Bool.not_eq_true] at h_url
    obtain ⟨h_url, h_save⟩ := h_url
    cases h_path : g.text? "db" with
    | some path =>
      rw [h_path] at h_place
      obtain rfl := Option.some.inj h_place
      exact .database h_url h_path
    | none =>
      rw [h_path] at h_place h_save
      have h_save : s.saveUrl.truth = false := by simpa using h_save
      have h_urls : [g.field "url", s.saveUrl].find? Value.truth = none := by simp [h_url, h_save]
      obtain ⟨path, h_file, rfl⟩ := Option.map_eq_some_iff.1 h_place
      rw [h.file] at h_file
      cases h_said : g.said "file" with
      | nothing =>
        rw [h_said] at h_file
        obtain rfl := Option.some.inj h_file
        exact .defaultFile h_urls h_path h_said
      | blank =>
        rw [h_said] at h_file
        exact nomatch h_file
      | value text =>
        rw [h_said] at h_file
        obtain rfl := Option.some.inj h_file
        exact .file h_urls h_path h_said

/-- What a call means: where its list is kept, and what the editor is asked for. -/
def Call.Means (call : Call) (s : Settings) (place : Place)
    (asked : Except Fault (Option Editor.Command)) : Prop :=
  ∃ g, mainGrammar.read call.arguments = .ok g ∧ Keeps g s place ∧ Asks call.consent g asked

theorem means_of_read {call : Call} {a : Arguments} {s : Settings} {place : Place}
    (h_read : Arguments.read call.arguments = .ok a) (h_place : Place.choose? a s = some place) :
    call.Means s place (a.verb.command call.consent) := by
  obtain ⟨g, h_given, h_says⟩ := says_of_read h_read
  exact ⟨g, h_given, keeps_of_choose h_says h_place, asks_of_verb? h_says.verb call.consent⟩

/-! ## Commands -/

/-- A command of the command line is given all that it needs, gives each field one value that fits
into a rule, and sets flags to flags. -/
structure Modest (c : Editor.Command) : Prop where
  ofList : c.IsOfList
  distinct : ∀ entries ∈ c.entries?, Record.Distinct (Record.keys entries)
  fits : ∀ entries ∈ c.entries?, ∀ e ∈ entries, Rule.Fits e.2
  flag : ∀ i value, c = .toggle i value → ∃ b, value = .bool b

theorem fits_values (o : RuleOptions) : ∀ e ∈ o.values, Rule.Fits e.2 := by
  intro e he
  obtain ⟨⟨_, _, said⟩, -, h⟩ := List.mem_filterMap.1 he
  obtain ⟨v, h_said, rfl⟩ := Option.map_eq_some_iff.1 h
  cases said with
  | nothing => exact nomatch h_said
  | blank =>
    obtain rfl := Option.some.inj h_said
    exact Nat.le_of_ble_eq_true rfl
  | value s =>
    obtain rfl := Option.some.inj h_said
    exact Nat.zero_le _

/-- A command that gives the fields of some options, and nothing else, is modest. -/
theorem modest_of_values {o : RuleOptions} {c : Editor.Command} (h_list : c.IsOfList)
    (h_given : c.entries? = some o.values) (h_flag : ∀ i value, c ≠ .toggle i value) : Modest c := by
  refine ⟨h_list, fun entries h => ?_, fun entries h => ?_, fun i value h => ?_⟩
  · obtain rfl := Option.some.inj (h_given.symm.trans h)
    exact distinct_values o
  · obtain rfl := Option.some.inj (h_given.symm.trans h)
    exact fits_values o
  · exact absurd h (h_flag i value)

theorem modest_command {verb : Verb} {consent : Consent} {c : Editor.Command}
    (h : verb.command consent = .ok (some c)) : Modest c := by
  cases verb with
  | list => exact nomatch h
  | add o =>
    obtain rfl := Option.some.inj (Except.ok.inj h)
    exact modest_of_values trivial rfl nofun
  | edit position o =>
    obtain rfl := Option.some.inj (Except.ok.inj h)
    exact modest_of_values trivial rfl nofun
  | delete | up | down =>
    obtain rfl := Option.some.inj (Except.ok.inj h)
    exact ⟨trivial, nofun, nofun, nofun⟩
  | move source target after =>
    cases target with
    | none => exact nomatch h
    | some target =>
      obtain rfl := Option.some.inj (Except.ok.inj h)
      exact ⟨trivial, nofun, nofun, nofun⟩
  | toggle position enabled =>
    obtain rfl := Option.some.inj (Except.ok.inj h)
    refine ⟨trivial, nofun, nofun, fun i value h => ?_⟩
    exact ⟨_, (Editor.Command.toggle.inj h).2.symm⟩

end Rulebook.Terminal
