/-
  Rulebook.Proofs.Storage.Register

  A file is a register, and so is each list of a database: what is loaded is what was saved there
  last, or what was there before.  A save that fails leaves no trace, however far it has come by
  then, and neither does a save of another list.

  A file has one place for its document, and a save of it is one step of the register
  (`File.save_of_ready`).  A database is shared: several connections save lists by name, and each
  makes the table if it has not yet done so.  One save changes the text of one list at most
  (`Connection.save_spec`), and the table that one connection has made stays for the others.

  A payload is saved in either exactly if it is a document that can be put down (`Savable`).  Of a
  document that cannot a file says nothing at all: its save breaks off.  A database says that it was
  not saved, unless it is too deep (`load_latest`).
-/
import Rulebook.Proofs.Arrangement
import Rulebook.Proofs.Run
import Rulebook.Proofs.Storage.File

namespace Rulebook.Storage

/-- What is loaded after payloads have been saved: the last one of them, or what was loaded before
if there are none. -/
def latest (before : Except LoadError (Option Value)) (saved : List Value) :
    Except LoadError (Option Value) :=
  (saved.getLast?.map fun payload => .ok (some payload)).getD before

/-- The last of the payloads that acts put into a register is what is loaded. -/
theorem getLast?_filterMap {α : Type} (acts : List α) (stores : α → Option Value)
    (before : Except LoadError (Option Value)) :
    (acts.filterMap fun a =>
        (stores a).map fun payload => .ok (some payload)).getLast?.getD before =
      latest before (acts.filterMap stores) := by
  rw [latest, ← List.getLast?_map, List.map_filterMap]

/-! ## Files -/

namespace File

/-- Saves of payloads at a path, one after another. -/
def saving (path : Path) (t : Tree) (payload : Value) : Tree × Except Error Bool :=
  save t path payload

/-- A save of a payload that is read as it was written puts it in the place of the document. -/
theorem load_saving {t : Tree} {path : Path} (h_ready : Ready t path) {payload : Value}
    (h_read : ReadsBack writer payload) :
    load (saving path t payload).1 path =
      ((Option.guard Savable payload).map fun payload => .ok (some payload)).getD
        (load t path) := by
  obtain ⟨t', h_save, -, h_kept⟩ := save_of_ready h_ready payload
  rw [saving, h_save, Option.guard]
  by_cases h_savable : Savable payload
  · rw [verdict_eq_saved_iff.2 h_savable] at h_save
    rw [load_of_save h_save h_read, if_pos (decide_eq_true h_savable)]
    rfl
  · -- Only what can be saved is saved, so the document has stayed.
    rw [h_kept (mt verdict_eq_saved_iff.1 h_savable), if_neg (mt of_decide_eq_true h_savable)]
    rfl

/-- The paths can be used throughout. -/
theorem ready_after {t : Tree} {path : Path} (h_ready : Ready t path) (payloads : List Value) :
    Ready (Run.after (saving path) t payloads) path := by
  have h_step (t : Tree) (payload : Value) (h : Ready t path) (_ : True) :
      Ready (saving path t payload).1 path := by
    obtain ⟨t', h_save, h_ready', -⟩ := save_of_ready h payload
    rw [saving, h_save]
    exact h_ready'
  exact @Run.inv_after _ _ _ (saving path) t _ (fun t => Ready t path) h_step payloads h_ready
    (Run.allowed_of_forall fun _ _ _ => trivial)

/-- **A file is a register.** -/
theorem load_after {t : Tree} {path : Path} (h_ready : Ready t path) (payloads : List Value)
    (h_read : ∀ payload ∈ payloads, ReadsBack writer payload) :
    load (Run.after (saving path) t payloads) path =
      latest (load t path) (payloads.filter Savable) := by
  have h_allowed : Run.Allowed (saving path) (fun _ payload => ReadsBack writer payload) t
      payloads := Run.allowed_of_forall fun _ => h_read
  have h_after := Run.read_after (fun t => load t path)
    (fun payload => (Option.guard Savable payload).map fun payload => .ok (some payload))
    (fun t payload (h : Ready t path) _ => ready_after h [payload])
    (fun t payload (h : Ready t path) h_read => load_saving h h_read) h_ready h_allowed
  rw [h_after, getLast?_filterMap, List.filterMap_eq_filter]

end File

/-! ## Connections -/

namespace Database

/-- The texts of the lists, of which there are none before the table has been made. -/
def rows (d : Database) : Record String String :=
  d.table.getD []

/-- What is loaded of a list. -/
def reading (d : Database) (list : String) : Except LoadError (Option Value) :=
  match d.rows.get? list with
  | none => .ok none
  | some text => ((Json.parse text).mapError .document).map some

theorem reading_congr {d d' : Database} {list : String}
    (h : d'.rows.get? list = d.rows.get? list) : d'.reading list = d.reading list := by
  rw [reading, reading, h]

end Database

namespace Connection

variable {c : Connection} {d : Database}

/-- A connection finds the table if it has made it. -/
def Finds (c : Connection) (d : Database) : Prop :=
  c.prepared = true → d.table.isSome = true

theorem prepare_eq (h : c.Finds d) :
    c.prepare d = ({ c with prepared := true }, { table := some d.rows }) := by
  obtain ⟨name, prepared⟩ := c
  obtain ⟨table⟩ := d
  cases prepared with
  | true =>
    obtain ⟨rows, rfl⟩ := Option.isSome_iff_exists.1 (h rfl)
    rfl
  | false => cases table <;> rfl

/-- A connection that loads changes nothing but that the table is made; what it loads is the text
under the name of its list. -/
theorem load_spec (h : c.Finds d) :
    ∃ outcome, c.load d = ({ c with prepared := true }, { table := some d.rows }, outcome) ∧
      ∀ list, Database.listName c.name = .ok (some list) → outcome = d.reading list := by
  rw [load, prepare_eq h]
  refine ⟨_, rfl, fun list h_name => ?_⟩
  have h_text : ({ c with prepared := true } : Connection).text { table := some d.rows } =
      .ok (d.rows.get? list) := by
    rw [text, h_name]
    rfl
  rw [h_text, Database.reading]
  cases d.rows.get? list with
  | none => rfl
  | some text => cases Json.parse text <;> rfl

/-- What a save comes to if the list has a name. -/
def verdict (payload : Value) : Outcome :=
  match Json.print writer payload with
  | .error .tooDeep => .tooDeep
  | .error _ => .failed
  | .ok text => if Text.hasBytes text then .saved else .failed

/-- **Exactly the documents that can be put down are saved.** -/
theorem verdict_eq_saved_iff {payload : Value} : verdict payload = .saved ↔ Savable payload := by
  rw [Savable, ← Json.exists_hasBytes_print_iff (w := writer) rfl, verdict]
  cases Json.print writer payload with
  | error obstacle =>
    constructor
    · intro h
      cases obstacle <;> cases h
    · rintro ⟨text, h, -⟩
      cases h
  | ok text =>
    dsimp only
    split
    · rename_i h_bytes
      exact ⟨fun _ => ⟨text, rfl, h_bytes⟩, fun _ => rfl⟩
    · rename_i h_bytes
      constructor
      · intro h
        cases h
      · rintro ⟨_, ⟨⟩, h⟩
        exact absurd h h_bytes

/-- Of a payload that is tame it is said whether it is a document. -/
theorem verdict_of_tame {payload : Value} (h : payload.Tame) :
    verdict payload = if Json.isDocument payload then .saved else .failed := by
  cases h_document : Json.isDocument payload with
  | true => exact verdict_eq_saved_iff.2 ⟨h_document, h⟩
  | false =>
    rcases Json.print_of_tame (w := writer) h rfl with ⟨h_true, -⟩ | ⟨-, h_error⟩
    · exact absurd (h_document.symm.trans h_true) (by decide)
    · rw [verdict, h_error]
      rfl

/-- **What a save does to the lists of a database.**  The text of the payload is put under the name
of the list, if the name is one and the payload can be put down; the texts of all other lists are as
they were. -/
theorem save_spec (h : c.Finds d) (payload : Value) :
    ∃ rows outcome, c.save d payload =
        ({ c with prepared := true }, { table := some rows }, outcome) ∧
      (∀ list, rows.get? list =
        if Database.listName c.name = .ok (some list) ∧ Savable payload then
          (Json.print writer payload).toOption
        else d.rows.get? list) ∧
      (∀ list, Database.listName c.name = .ok (some list) → outcome = verdict payload) := by
  have h_savable : Savable payload ↔
      ∃ text, Json.print writer payload = .ok text ∧ Text.hasBytes text = true :=
    (Json.exists_hasBytes_print_iff rfl).symm
  rw [save, prepare_eq h, verdict]
  dsimp only
  cases h_print : Json.print writer payload with
  | error obstacle =>
    have h_unsavable : ¬ Savable payload := by
      rw [h_savable, h_print]
      rintro ⟨_, ⟨⟩, -⟩
    refine ⟨d.rows, verdict payload, ?_, fun list => ?_, fun _ _ => ?_⟩
    · rw [verdict, h_print]
      cases obstacle <;> rfl
    · rw [if_neg fun h => h_unsavable h.2]
    · rw [verdict, h_print]
  | ok text =>
    dsimp only
    rw [store?]
    cases h_bytes : Text.hasBytes text with
    | false =>
      have h_unsavable : ¬ Savable payload := by
        rw [h_savable, h_print]
        rintro ⟨_, ⟨⟩, h⟩
        exact absurd (h_bytes.symm.trans h) Bool.false_ne_true
      refine ⟨d.rows, .failed, rfl, fun list => ?_, fun _ _ => rfl⟩
      rw [if_neg fun h => h_unsavable h.2]
    | true =>
      have h_can : Savable payload := h_savable.2 ⟨text, h_print, h_bytes⟩
      rw [if_pos rfl]
      -- What the name of the connection is the name of decides what is written.
      cases h_name : Database.listName c.name with
      | error error =>
        refine ⟨d.rows, .failed, rfl, fun list => ?_, fun list h => nomatch h⟩
        rw [if_neg fun h => nomatch h.1]
      | ok found =>
        cases found with
        | none =>
          refine ⟨d.rows, .saved, rfl, fun list => ?_, fun list h => nomatch h⟩
          rw [if_neg fun h => nomatch h.1]
        | some name =>
          refine ⟨d.rows.put name text, .saved, rfl, fun list => ?_, fun _ _ => rfl⟩
          by_cases h_list : name = list
          · subst h_list
            rw [if_pos ⟨rfl, h_can⟩, Record.get?_put_self]
            rfl
          · rw [if_neg fun h => h_list (Option.some.inj (Except.ok.inj h.1)),
              Record.get?_put_of_ne (beq_false_of_ne h_list)]

end Connection

/-! ## Connections that share a database -/

/-- Connections, and the database that they share. -/
structure Shared where
  connections : List Connection
  database : Database

namespace Shared

/-- What can be done: one of the connections saves a payload, or loads. -/
inductive Act where
  | save (k : Nat) (payload : Value)
  | load (k : Nat)

/-- What is answered. -/
inductive Answer where
  | saved (outcome : Connection.Outcome)
  | loaded (outcome : Except LoadError (Option Value))
  /-- there is no such connection -/
  | nobody

/-- Does one thing. -/
def step (s : Shared) : Act → Shared × Answer
  | .save k payload =>
    match s.connections[k]? with
    | none => (s, .nobody)
    | some c =>
      let (c, database, outcome) := c.save s.database payload
      ({ connections := s.connections.set k c, database }, .saved outcome)
  | .load k =>
    match s.connections[k]? with
    | none => (s, .nobody)
    | some c =>
      let (c, database, outcome) := c.load s.database
      ({ connections := s.connections.set k c, database }, .loaded outcome)

/-- A new connection for each name. -/
def connect (names : List Value) (database : Database) : Shared where
  connections := names.map fun name => { name }
  database

/-- The payload that an act saves in a list, if it is one that can be put down. -/
def Act.stores? (names : List Value) (list : String) : Act → Option Value
  | .save k payload =>
    if names[k]?.map Database.listName = some (.ok (some list)) ∧ Savable payload then
      some payload
    else none
  | .load _ => none

/-- The payload of an act is read as it was written. -/
def Act.ReadBack : Act → Prop
  | .save _ payload => ReadsBack Connection.writer payload
  | .load _ => True

instance : (a : Act) → Decidable a.ReadBack
  | .save _ payload => inferInstanceAs (Decidable (ReadsBack Connection.writer payload))
  | .load _ => .isTrue trivial

/-- The connections have their names, and each finds the table if it has made it. -/
structure Sound (names : List Value) (s : Shared) : Prop where
  names : s.connections.map Connection.name = names
  finds : ∀ c ∈ s.connections, c.Finds s.database

variable {names : List Value} {s : Shared}

theorem sound_connect (names : List Value) (database : Database) :
    Sound names (connect names database) := by
  constructor
  · rw [connect, List.map_map]
    exact List.map_id names
  · intro c hc h_prepared
    obtain ⟨name, -, rfl⟩ := List.mem_map.1 hc
    exact nomatch h_prepared

/-- A connection that has made the table, or found it there, leaves it to the others. -/
theorem Sound.set (h : s.Sound names) {k : Nat} {c : Connection} (hk : s.connections[k]? = some c)
    (rows : Record String String) :
    Sound names ⟨s.connections.set k { c with prepared := true }, { table := some rows }⟩ := by
  constructor
  · rw [← h.names, List.map_set]
    refine Arrangement.set_of_getElem? ?_
    rw [List.getElem?_map, hk]
    rfl
  · intro c' _ _
    rfl

/-- The connection at a position has the name that is there. -/
theorem Sound.getElem? (h : s.Sound names) (k : Nat) :
    names[k]? = s.connections[k]?.map Connection.name := by
  rw [← h.names, List.getElem?_map]

/-- What each act comes to: it is one of a connection that there is, or nothing happens. -/
theorem step_cases (h : s.Sound names) (a : Act) (list : String) :
    (s.step a).1.Sound names ∧
      (a.ReadBack → (s.step a).1.database.reading list =
        ((a.stores? names list).map fun payload => .ok (some payload)).getD
          (s.database.reading list)) := by
  cases a with
  | save k payload =>
    cases hk : s.connections[k]? with
    | none =>
      have h_step : (s.step (.save k payload)).1 = s := by simp only [step, hk]
      have h_nobody : names[k]? = none := by rw [h.getElem?, hk]; rfl
      rw [h_step, Act.stores?, h_nobody, if_neg fun h => nomatch h.1]
      exact ⟨h, fun _ => rfl⟩
    | some c =>
      obtain ⟨rows, outcome, h_save, h_rows, -⟩ :=
        Connection.save_spec (h.finds c (List.mem_of_getElem? hk)) payload
      have h_step : (s.step (.save k payload)).1 =
          ⟨s.connections.set k { c with prepared := true }, { table := some rows }⟩ := by
        simp only [step, hk, h_save]
      have h_name : names[k]?.map Database.listName = some (Database.listName c.name) := by
        rw [h.getElem?, hk]
        rfl
      rw [h_step]
      refine ⟨h.set hk rows, fun h_read => ?_⟩
      have h_list := h_rows list
      by_cases h_stored : Database.listName c.name = .ok (some list) ∧ Savable payload
      · -- The list is the one of the connection, and it holds the text of the payload.
        have h_stores : Act.stores? names list (.save k payload) = some payload :=
          if_pos ⟨h_name.trans (congrArg some h_stored.1), h_stored.2⟩
        obtain ⟨text, h_text, -⟩ :=
          (Json.exists_hasBytes_print_iff (w := Connection.writer) rfl).2 h_stored.2
        rw [if_pos h_stored, h_text] at h_list
        have h_found : Record.get? (Database.rows { table := some rows }) list = some text := h_list
        rw [h_stores, Database.reading, h_found]
        dsimp only
        rw [ReadsBack.parse h_read h_text]
        rfl
      · -- Another list is saved, or nothing is: the text of this one stays.
        have h_stores : Act.stores? names list (.save k payload) = none :=
          if_neg fun h => h_stored ⟨Option.some.inj (h_name.symm.trans h.1), h.2⟩
        rw [if_neg h_stored] at h_list
        rw [h_stores]
        exact Database.reading_congr h_list
  | load k =>
    cases hk : s.connections[k]? with
    | none =>
      have h_step : (s.step (.load k)).1 = s := by simp only [step, hk]
      rw [h_step]
      exact ⟨h, fun _ => rfl⟩
    | some c =>
      obtain ⟨outcome, h_load, -⟩ := Connection.load_spec (h.finds c (List.mem_of_getElem? hk))
      have h_step : (s.step (.load k)).1 =
          ⟨s.connections.set k { c with prepared := true }, { table := some s.database.rows }⟩ := by
        simp only [step, hk, h_load]
      rw [h_step]
      exact ⟨h.set hk _, fun _ => rfl⟩

/-- **Each list of a database is a register**: any connection of that name answers with what was
saved there last, and what it says of a payload follows from the payload. -/
theorem answers_after (names : List Value) (d : Database) (acts : List Act)
    (h_read : ∀ a ∈ acts, a.ReadBack) {k : Nat} {name : Value} {list : String}
    (h_name : names[k]? = some name) (h_list : Database.listName name = .ok (some list)) :
    let now := Run.after step (connect names d) acts
    (now.step (.load k)).2 =
        .loaded (latest (({ name } : Connection).load d).2.2
          (acts.filterMap (Act.stores? names list))) ∧
      ∀ payload, (now.step (.save k payload)).2 = .saved (Connection.verdict payload) := by
  intro now
  have h_start := sound_connect names d
  have h_allowed : Run.Allowed step (fun _ a => a.ReadBack) (connect names d) acts :=
    Run.allowed_of_forall fun _ => h_read
  have h_step (s : Shared) (a : Act) (h : s.Sound names) (_ : a.ReadBack) :
      (s.step a).1.Sound names := (step_cases h a list).1
  have h_sound : now.Sound names := Run.inv_after h_step h_start h_allowed
  have h_reading : now.database.reading list =
      latest (d.reading list) (acts.filterMap (Act.stores? names list)) := by
    rw [← getLast?_filterMap]
    exact Run.read_after (fun s : Shared => s.database.reading list) _ h_step
      (fun s a h h_read => (step_cases h a list).2 h_read) h_start h_allowed
  -- What a new connection would have loaded before the run is what the list held then.
  have h_before : (({ name } : Connection).load d).2.2 = d.reading list := by
    obtain ⟨outcome, h_load, h_outcome⟩ :=
      Connection.load_spec (c := { name }) (d := d) fun h => nomatch h
    rw [h_load]
    exact h_outcome list h_list
  obtain ⟨c, hk, h_same⟩ : ∃ c, now.connections[k]? = some c ∧ c.name = name := by
    rw [h_sound.getElem?] at h_name
    exact Option.map_eq_some_iff.1 h_name
  have h_finds := h_sound.finds c (List.mem_of_getElem? hk)
  rw [← h_same] at h_list
  constructor
  · obtain ⟨outcome, h_load, h_outcome⟩ := Connection.load_spec h_finds
    rw [h_before, ← h_reading, ← h_outcome list h_list]
    simp only [step, hk, h_load]
  · intro payload
    obtain ⟨rows, outcome, h_save, -, h_outcome⟩ := Connection.save_spec h_finds payload
    rw [← h_outcome list h_list]
    simp only [step, hk, h_save]

end Shared

/-! ## Both -/

/-- **Files and databases are registers, for what can be put down.**  Save any payloads at a path that
can be used, one after another, or let any connections to one database save and load in any order.
What is loaded is the payload of the last save that has succeeded, in a database the last one under
that name, and what was loaded before the run if there was none; failed saves, and saves under other
names, make no difference.

The next save of a payload succeeds exactly if it is a document that can be put down.  Of a payload
that is tame, the save says whether it is a document.  A document that is not tame is lost: the save
of a file breaks off, and a database says that it was not saved, or breaks off as well. -/
theorem load_latest (t : Tree) (path : Path) (payloads : List Value)
    (h_ready : File.Ready t path) (h_file : ∀ payload ∈ payloads, ReadsBack File.writer payload)
    (names : List Value) (d : Database) (acts : List Shared.Act)
    (h_database : ∀ a ∈ acts, a.ReadBack) :
    (let now := Run.after (File.saving path) t payloads
     File.load now path = latest (File.load t path) (payloads.filter Savable) ∧
       ∀ payload,
         ((File.save now path payload).2 = .ok true ↔ Savable payload) ∧
         (payload.Tame → (File.save now path payload).2 = .ok (Json.isDocument payload)) ∧
         (Json.isDocument payload = true → ¬ payload.Tame →
           ∃ obstacle, (File.save now path payload).2 = .error (@File.Error.noBytes obstacle))) ∧
    (let now := Run.after Shared.step (Shared.connect names d) acts
     ∀ (k : Nat) (name : Value) (list : String), names[k]? = some name →
       Database.listName name = .ok (some list) →
       (now.step (.load k)).2 =
           .loaded (latest (({ name } : Connection).load d).2.2
             (acts.filterMap (Shared.Act.stores? names list))) ∧
         ∀ payload, ∃ outcome, (now.step (.save k payload)).2 = .saved outcome ∧
           (outcome = .saved ↔ Savable payload) ∧
           (payload.Tame → outcome = if Json.isDocument payload then .saved else .failed)) := by
  constructor
  · intro now
    refine ⟨File.load_after h_ready payloads h_file, fun payload => ?_⟩
    obtain ⟨t', h_save, -⟩ := File.save_of_ready (File.ready_after h_ready payloads) payload
    have h_verdict : (File.save now path payload).2 = File.verdict payload := by rw [h_save]
    rw [h_verdict]
    exact ⟨File.verdict_eq_saved_iff, File.verdict_of_tame, File.verdict_of_not_tame⟩
  · intro now k name list h_name h_list
    obtain ⟨h_load, h_save⟩ := Shared.answers_after names d acts h_database h_name h_list
    exact ⟨h_load, fun payload => ⟨_, h_save payload, Connection.verdict_eq_saved_iff,
      Connection.verdict_of_tame⟩⟩

/-- A list is saved, and then one that holds no document; beside it another list is saved in the
same database. -/
theorem load_latest_of_failed :
    let path : Path := ⟨.here, ["rules.json"]⟩
    let first : Value := .mapping [("rules", .list [])]
    let failing : Value := .mapping [("rules", .list [.foreign])]
    let second : Value := .mapping [("response_rules", .list [])]
    let acts : List Shared.Act :=
      [.save 0 first, .load 1, .save 1 second, .save 0 failing]
    File.Ready {} path ∧
      File.load (Run.after (File.saving path) {} [first, failing]) path = .ok (some first) ∧
      ((Run.after Shared.step (Shared.connect ["rules", "response_rules"] {}) acts).step
        (.load 0)).2 = .loaded (.ok (some first)) := by
  intro path first failing second acts
  have h_ready : File.Ready {} path := by
    refine ⟨by decide +kernel, ⟨⟨.here, 0, ["rules.json"]⟩, by decide +kernel, by decide +kernel⟩,
      ⟨.here, ["rules.json.tmp"]⟩, ⟨.here, 0, ["rules.json.tmp"]⟩, by decide +kernel, ?_⟩
    exact ⟨by decide +kernel, by decide +kernel⟩
  have h_file : ∀ payload ∈ [first, failing], ReadsBack File.writer payload := by decide +kernel
  have h_database : ∀ a ∈ acts, a.ReadBack := by decide +kernel
  obtain ⟨⟨h_document, -⟩, h_lists⟩ := load_latest {} path [first, failing] h_ready h_file
    ["rules", "response_rules"] {} acts h_database
  obtain ⟨h_list, -⟩ := h_lists 0 "rules" "rules" rfl (by decide +kernel)
  have h_saved : [first, failing].filter Savable = [first] := by decide +kernel
  have h_stored : acts.filterMap
      (Shared.Act.stores? ["rules", "response_rules"] "rules") = [first] := by decide +kernel
  rw [h_saved] at h_document
  rw [h_stored] at h_list
  exact ⟨h_ready, h_document, h_list⟩

/-- Documents that cannot be put down: one holds a surrogate, which has no bytes, one a whole number
of too many digits, and one is too deep.  The save of a file breaks off, and a database has not saved
them either. -/
theorem documents_not_saved :
    let path : Path := ⟨.here, ["rules.json"]⟩
    let surrogate : Value := .mapping [("rules", .list [.mapping
      [("match_value", .text (String.ofList [Text.standIn 0xD800]))]])]
    let long : Value := .mapping [("rules", .list [.int (Int.ofNat (Nat.pow 10 5000))])]
    let deep : Value := (List.range 1000).foldl (fun v _ => .list [v]) .null
    let c : Connection := { name := "rules" }
    (Json.isDocument surrogate && Json.isDocument long && Json.isDocument deep) = true ∧
      (File.save {} path surrogate).2 = .error (@File.Error.noBytes .noBytes) ∧
      (File.save {} path long).2 = .error (@File.Error.noBytes .tooLong) ∧
      (File.save {} path deep).2 = .error (@File.Error.noBytes .tooDeep) ∧
      (c.save {} surrogate).2.2 = .failed ∧ (c.save {} long).2.2 = .failed ∧
      (c.save {} deep).2.2 = .tooDeep := by
  decide +kernel

end Rulebook.Storage
