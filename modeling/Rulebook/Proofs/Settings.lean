/-
  Rulebook.Proofs.Settings

  Settings can be given by a document, under either of two names, and by the environment.  Each of
  these ways comes to a list of settings with a value for each (`Settings.named`, for a document),
  which are then set one after another (`Settings.setAll`).

  Different settings may be set in any order (`setAll_perm`), and of two values for one setting the
  earlier one is forgotten, unless it is refused (`setAll_forget`).  A value is refused only where a
  placement is asked for.

  Main statement: `Settings.readers_agree`.
-/
import Mathlib.Data.List.Nodup
import Rulebook.Proofs.Outcome
import Rulebook.Settings

namespace Rulebook.Settings

variable {s : Settings} {k l : Key} {v w : Value}

/-! ## One setting -/

/-- A value can be set: it is a placement, if that is what is asked for. -/
def Accepts (k : Key) (v : Value) : Prop :=
  k = .insertionPolicy → ∃ p, Placement.ofValue? v = .ok p

theorem exists_set_eq_ok (h : Accepts k v) (s : Settings) : ∃ next, s.set k v = .ok next := by
  cases k with
  | insertionPolicy =>
    obtain ⟨p, hp⟩ := h rfl
    exact ⟨{ s with placement := p }, by rw [set, hp]; rfl⟩
  | hasFinalRule | allowMove | allowDelete | allowToggle | debug | ruleKey | saveUrl | loadUrl
  | finalDescription => exact ⟨_, rfl⟩

/-- What is said of a value that is no placement. -/
theorem eq_unknownChoice_of_ofValue? {error : ReadingError}
    (h : Placement.ofValue? v = .error error) : error = .unknownChoice v "InsertionPolicy" := by
  unfold Placement.ofValue? at h
  split at h
  · exact nomatch h
  · exact nomatch h
  · exact (Except.error.inj h).symm

/-- Only a placement can be refused. -/
theorem of_set_eq_error {error : ReadingError} (h : s.set k v = .error error) :
    k = .insertionPolicy ∧ error = .unknownChoice v "InsertionPolicy" := by
  cases k with
  | insertionPolicy =>
    refine ⟨rfl, eq_unknownChoice_of_ofValue? ?_⟩
    exact (bind_eq_error_iff.1 h).resolve_right fun ⟨_, _, h_done⟩ => nomatch h_done
  | hasFinalRule | allowMove | allowDelete | allowToggle | debug | ruleKey | saveUrl | loadUrl
  | finalDescription => exact nomatch h

/-- Two settings may be set in either order. -/
theorem set_set_comm (h : k ≠ l) (s : Settings) (v w : Value) :
    (s.set k v >>= fun s => s.set l w) = s.set l w >>= fun s => s.set k v := by
  -- Each of them is a field of its own; only the placement has to be read first.
  cases k <;> cases l <;> first
    | exact absurd rfl h
    | rfl
    | (simp only [set]; cases Placement.ofValue? _ <;> rfl)

/-- What a setting was before does not matter when it is set again. -/
theorem set_set {next : Settings} (h : s.set k v = .ok next) (w : Value) :
    next.set k w = s.set k w := by
  cases k with
  | insertionPolicy =>
    obtain ⟨p, -, h_next⟩ := bind_eq_ok_iff.1 h
    rw [← Except.ok.inj h_next]
    rfl
  | hasFinalRule | allowMove | allowDelete | allowToggle | debug | ruleKey | saveUrl | loadUrl
  | finalDescription =>
    rw [← Except.ok.inj h]
    rfl

/-! ## Several settings -/

/-- The settings with values for several of them set one after another. -/
def setAll (s : Settings) (given : List (Key × Value)) : Except ReadingError Settings :=
  given.foldlM (fun s e => s.set e.1 e.2) s

theorem setAll_cons (s : Settings) (e : Key × Value) (given : List (Key × Value)) :
    s.setAll (e :: given) = s.set e.1 e.2 >>= fun s => s.setAll given :=
  List.foldlM_cons

theorem setAll_append (s : Settings) (first last : List (Key × Value)) :
    s.setAll (first ++ last) = s.setAll first >>= fun s => s.setAll last :=
  List.foldlM_append

theorem setAll_swap {e f : Key × Value} (h : e.1 ≠ f.1) (s : Settings)
    (given : List (Key × Value)) : s.setAll (e :: f :: given) = s.setAll (f :: e :: given) := by
  simp only [setAll_cons]
  calc (s.set e.1 e.2 >>= fun s => s.set f.1 f.2 >>= fun s => s.setAll given)
      = (s.set e.1 e.2 >>= fun s => s.set f.1 f.2) >>= fun s => s.setAll given :=
        (bind_assoc _ _ _).symm
    _ = (s.set f.1 f.2 >>= fun s => s.set e.1 e.2) >>= fun s => s.setAll given := by
        rw [set_set_comm h]
    _ = s.set f.1 f.2 >>= fun s => s.set e.1 e.2 >>= fun s => s.setAll given :=
        bind_assoc _ _ _

/-- **Different settings may be set in any order.** -/
theorem setAll_perm {given given' : List (Key × Value)} (h : given.Perm given')
    (h_keys : (given.map Prod.fst).Nodup) (s : Settings) : s.setAll given = s.setAll given' := by
  induction h generalizing s with
  | nil => rfl
  | cons e _ ih =>
    rw [setAll_cons, setAll_cons]
    exact bind_congr fun next => ih (List.nodup_cons.1 h_keys).2 next
  | swap e f rest =>
    have h_ne : f.1 ≠ e.1 := fun h_same =>
      (List.nodup_cons.1 h_keys).1 (h_same ▸ List.mem_cons_self)
    exact setAll_swap h_ne s rest
  | trans h_first _ ih ih' =>
    rw [ih h_keys, ih' ((h_first.map Prod.fst).nodup_iff.1 h_keys)]

/-- **Of two values for one setting the earlier one is forgotten**, if it is not refused. -/
theorem setAll_forget {given : List (Key × Value)} (h : Accepts k v)
    (h_again : k ∈ given.map Prod.fst) (s : Settings) :
    s.setAll ((k, v) :: given) = s.setAll given := by
  induction given generalizing s with
  | nil => exact absurd h_again List.not_mem_nil
  | cons e rest ih =>
    by_cases h_same : e.1 = k
    · -- The setting is set again right away.
      obtain ⟨next, h_next⟩ := exists_set_eq_ok h s
      rw [setAll_cons, h_next, setAll_cons s e, h_same, ← set_set h_next e.2, ← h_same]
      exact setAll_cons next e rest
    · -- Another one is set in between, and may as well be set first.
      have h_rest : k ∈ rest.map Prod.fst :=
        (List.mem_cons.1 h_again).resolve_left fun h => h_same h.symm
      have h_ne : k ≠ e.1 := fun h => h_same h.symm
      rw [setAll_swap h_ne, setAll_cons, setAll_cons s e]
      exact bind_congr fun next => ih h_rest next

/-- Setting several settings fails only because of a value that is no placement. -/
theorem of_setAll_eq_error {given : List (Key × Value)} {error : ReadingError}
    (h : s.setAll given = .error error) :
    ∃ v, (Key.insertionPolicy, v) ∈ given ∧ error = .unknownChoice v "InsertionPolicy" := by
  induction given generalizing s with
  | nil => exact nomatch h
  | cons e rest ih =>
    obtain ⟨k, v⟩ := e
    rw [setAll_cons] at h
    rcases bind_eq_error_iff.1 h with h_here | ⟨next, -, h_there⟩
    · obtain ⟨rfl, h_error⟩ := of_set_eq_error h_here
      exact ⟨v, List.mem_cons_self, h_error⟩
    · obtain ⟨v, h_mem, h_error⟩ := ih h_there
      exact ⟨v, List.mem_cons_of_mem _ h_mem, h_error⟩

/-! ## Documents -/

/-- The settings that the entries of a document name, with their values. -/
def named (es : Entries) : List (Key × Value) :=
  es.filterMap fun e => (Key.ofName? e.1).map fun k => (k, e.2)

theorem ofEntries_eq_setAll (es : Entries) : ofEntries es = setAll {} (named es) := by
  rw [setAll, named, List.foldlM_filterMap, ofEntries]
  congr 1
  funext s e
  unfold readEntry
  cases Key.ofName? e.1 with
  | none => rfl
  | some k => rfl

/-- No two entries name the same setting. -/
def Unambiguous (es : Entries) : Prop :=
  ((named es).map Prod.fst).Nodup

theorem named_cons_of_ofName? {e : Name × Value} (h : Key.ofName? e.1 = some k) (es : Entries) :
    named (e :: es) = (k, e.2) :: named es := by
  rw [named, List.filterMap_cons, h]
  rfl

theorem named_append (first last : Entries) : named (first ++ last) = named first ++ named last :=
  List.filterMap_append

theorem named_of_unknown {es : Entries} (h : ∀ e ∈ es, Key.ofName? e.1 = none) : named es = [] := by
  refine List.filterMap_eq_nil_iff.2 fun e he => ?_
  rw [h e he]
  rfl

/-- The entries that write settings are read as these settings. -/
theorem ofEntries_toEntries (s : Settings) : ofEntries s.toEntries = .ok s := by
  obtain ⟨hasFinal, ⟨move, delete, toggle⟩, placement, ruleKey, saveUrl, loadUrl, description,
    debug⟩ := s
  cases placement <;> rfl

/-! ## Assignments -/

/-- What is given for each setting, as a text. -/
abbrev Assignment := Key → Option String

namespace Assignment

/-- The settings that are given, with their values, in the order in which the environment is
read. -/
def given (a : Assignment) : List (Key × Value) :=
  Key.all.filterMap fun k => (a k).map fun text => (k, .text text)

/-- The entries that give the same in a document, under names of a certain spelling. -/
def entries (a : Assignment) (spelling : Key → String) : Entries :=
  a.given.map fun e => (.text (spelling e.1), e.2)

/-- The variables of an environment give what the assignment does. -/
def InEnvironment (a : Assignment) (environment : Record String String) : Prop :=
  ∀ k, environment.get? k.variableName = a k

/-- The entries of a document give what the assignment does under names of a certain spelling, in
any order and among others whose names are not known. -/
def InDocument (a : Assignment) (spelling : Key → String) (es : Entries) : Prop :=
  ∃ unknown, es.Perm (a.entries spelling ++ unknown) ∧ ∀ e ∈ unknown, Key.ofName? e.1 = none

theorem nodup_given (a : Assignment) : (a.given.map Prod.fst).Nodup := by
  rw [given, List.map_filterMap]
  refine List.Nodup.filterMap ?_ (by decide)
  intro k l b hk hl
  rw [Option.map_map, Option.mem_def] at hk hl
  obtain ⟨_, _, rfl⟩ := Option.map_eq_some_iff.1 hk
  obtain ⟨_, _, h_same⟩ := Option.map_eq_some_iff.1 hl
  exact h_same.symm

theorem of_mem_given {a : Assignment} (h : (k, v) ∈ a.given) :
    ∃ text, a k = some text ∧ v = .text text := by
  obtain ⟨l, -, h_given⟩ := List.mem_filterMap.1 h
  obtain ⟨text, h_text, h_same⟩ := Option.map_eq_some_iff.1 h_given
  obtain ⟨rfl, rfl⟩ := Prod.mk.inj h_same
  exact ⟨text, h_text, rfl⟩

/-- The environment gives the settings of the assignment, one after another. -/
theorem ofEnvironment_eq {a : Assignment} {environment : Record String String}
    (h_text : ∀ k, a k ≠ some "") (h : a.InEnvironment environment) :
    ofEnvironment environment = setAll {} a.given := by
  rw [setAll, given, List.foldlM_filterMap, ofEnvironment]
  congr 1
  funext s k
  unfold readVariable
  rw [h k]
  cases h_given : a k with
  | none => rfl
  | some text =>
    have h_full : text.isEmpty = false :=
      String.isEmpty_eq_false_iff.2 fun h_empty => h_text k (h_given.trans (congrArg some h_empty))
    simp only [h_full, Bool.not_false, Bool.or_true, if_true, Option.map_some]

theorem named_entries (a : Assignment) {spelling : Key → String}
    (h : ∀ k, Key.ofName? (.text (spelling k)) = some k) :
    named (a.entries spelling) = a.given := by
  rw [named, entries, List.filterMap_map]
  have h_each : ((fun e : Name × Value => (Key.ofName? e.1).map fun k => (k, e.2)) ∘
      fun e : Key × Value => (Name.text (spelling e.1), e.2)) = some := by
    funext e
    rw [Function.comp_apply, h e.1]
    rfl
  rw [h_each, List.filterMap_some]

/-- So does a document, in either spelling. -/
theorem ofEntries_eq {a : Assignment} {spelling : Key → String} {es : Entries}
    (h_spelling : ∀ k, Key.ofName? (.text (spelling k)) = some k) (h : a.InDocument spelling es) :
    ofEntries es = setAll {} a.given := by
  obtain ⟨unknown, h_perm, h_unknown⟩ := h
  have h_named : named (a.entries spelling ++ unknown) = a.given := by
    rw [named_append, named_entries a h_spelling, named_of_unknown h_unknown, List.append_nil]
  have h_given : a.given.Perm (named es) := h_named ▸ h_perm.symm.filterMap _
  rw [ofEntries_eq_setAll, setAll_perm h_given a.nodup_given]

end Assignment

/-! ## The readers -/

theorem Key.ofName?_documentName (k : Key) : Key.ofName? (.text k.documentName) = some k := by
  cases k <;> decide

theorem Key.ofName?_plainName (k : Key) : Key.ofName? (.text k.plainName) = some k := by
  cases k <;> decide

/-- **The ways to give settings agree.**  If the environment and two documents, one in each
spelling, give the same texts, of which none is empty, they give the same settings, or all of them
fail with one error because a text is no placement.  The settings that a document gives do not
depend on the order of its entries if no two of them name one setting.  Of two that do the earlier
one may be left out, unless it is refused.  The entries that write settings are read as these
settings. -/
theorem readers_agree :
    (∀ (a : Assignment) (environment : Record String String) (camel plain : Entries),
      (∀ k, a k ≠ some "") → a.InEnvironment environment →
      a.InDocument Key.documentName camel → a.InDocument Key.plainName plain →
      ofEntries camel = ofEnvironment environment ∧ ofEntries plain = ofEnvironment environment ∧
        ∀ error, ofEnvironment environment = .error error → ∃ text,
          a .insertionPolicy = some text ∧
            error = .unknownChoice (.text text) "InsertionPolicy") ∧
    (∀ es es' : Entries, es.Perm es' → Unambiguous es → ofEntries es' = ofEntries es) ∧
    (∀ (front middle back : Entries) (earlier later : Name × Value) (k : Key),
      Key.ofName? earlier.1 = some k → Key.ofName? later.1 = some k → Accepts k earlier.2 →
      ofEntries (front ++ earlier :: middle ++ later :: back) =
        ofEntries (front ++ middle ++ later :: back)) ∧
    ∀ s : Settings, ofEntries s.toEntries = .ok s := by
  refine ⟨?_, ?_, ?_, ofEntries_toEntries⟩
  · intro a environment camel plain h_text h_environment h_camel h_plain
    rw [Assignment.ofEnvironment_eq h_text h_environment]
    refine ⟨Assignment.ofEntries_eq Key.ofName?_documentName h_camel,
      Assignment.ofEntries_eq Key.ofName?_plainName h_plain, fun error h => ?_⟩
    obtain ⟨v, h_mem, h_error⟩ := of_setAll_eq_error h
    obtain ⟨text, h_given, rfl⟩ := Assignment.of_mem_given h_mem
    exact ⟨text, h_given, h_error⟩
  · intro es es' h_perm h_keys
    have h_named : (named es).Perm (named es') := h_perm.filterMap _
    rw [ofEntries_eq_setAll, ofEntries_eq_setAll, setAll_perm h_named h_keys]
  · intro front middle back earlier later k h_earlier h_later h_accepts
    have h_again : k ∈ (named (middle ++ later :: back)).map Prod.fst := by
      rw [named_append, named_cons_of_ofName? h_later, List.map_append, List.map_cons]
      exact List.mem_append_right _ List.mem_cons_self
    rw [List.append_assoc, List.append_assoc, List.cons_append, ofEntries_eq_setAll,
      ofEntries_eq_setAll, named_append, named_append, named_cons_of_ofName? h_earlier,
      setAll_append, setAll_append]
    exact bind_congr fun s => setAll_forget h_accepts h_again s

/-- Three settings in both spellings, with other entries and variables around them; three entries in
another order; and a placement that is given twice. -/
theorem readers_agree_for_debug :
    let given : Assignment := fun
      | .debug => some "ON "
      | .insertionPolicy => some "atHead"
      | .ruleKey => some "list"
      | _ => none
    let environment := [("HOME", "/"), ("RULELIST_RULE_KEY", "list"), ("RULELIST_DEBUG", "ON "),
      ("RULELIST_INSERTION_POLICY", "atHead")]
    let camel : Entries := [("ruleKey", .text "list"), (.int 1, .null), ("debug", .text "ON "),
      ("insertionPolicy", .text "atHead")]
    let plain : Entries := [("insertion_policy", .text "atHead"), ("rule_key", .text "list"),
      ("debug", .text "ON "), ("Debug", .bool false)]
    let twice : Entries := ("insertion_policy", .text "beforeFinal") :: camel
    ((∀ k, given k ≠ some "") ∧ given.InEnvironment environment ∧
        given.InDocument Key.documentName camel ∧ given.InDocument Key.plainName plain ∧
        ofEntries camel = ofEnvironment environment ∧
        ofEntries plain = ofEnvironment environment ∧
        ofEnvironment environment =
          .ok { debug := true, placement := .atHead, ruleKey := .text "list" }) ∧
      (camel.Perm camel.reverse ∧ Unambiguous camel ∧
        ofEntries camel.reverse = ofEntries camel) ∧
      (Accepts .insertionPolicy (.text "beforeFinal") ∧ ofEntries twice = ofEntries camel) := by
  intro given environment camel plain twice
  have h_text : ∀ k, given k ≠ some "" := by
    intro k
    cases k <;> decide
  have h_environment : given.InEnvironment environment := by
    intro k
    cases k <;> rfl
  have h_camel : given.InDocument Key.documentName camel :=
    ⟨[(.int 1, .null)], by decide, by decide⟩
  have h_plain : given.InDocument Key.plainName plain :=
    ⟨[("Debug", .bool false)], by decide, by decide⟩
  have h_perm : camel.Perm camel.reverse := (List.reverse_perm camel).symm
  have h_apart : Unambiguous camel := by
    unfold Unambiguous
    decide
  have h_accepts : Accepts .insertionPolicy (.text "beforeFinal") := fun _ => ⟨.beforeFinal, rfl⟩
  obtain ⟨h_first, h_second, -⟩ :=
    readers_agree.1 given environment camel plain h_text h_environment h_camel h_plain
  refine ⟨⟨h_text, h_environment, h_camel, h_plain, h_first, h_second, by decide⟩,
    ⟨h_perm, h_apart, ?_⟩, h_accepts, ?_⟩
  · exact readers_agree.2.1 camel camel.reverse h_perm h_apart
  · exact readers_agree.2.2.1 [] (camel.take 3) [] ("insertion_policy", .text "beforeFinal")
      ("insertionPolicy", .text "atHead") .insertionPolicy (by decide) (by decide) h_accepts

end Rulebook.Settings
