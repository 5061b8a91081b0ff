/-
  Rulebook.Proofs.Editor.Reading

  What an editor reads of a list that was stored.  The payload of a book whose rules are storable is
  read as the rules of the book, and a book that is kept as the settings say takes them over as they
  are: nothing has to be put in order again.

  Main statements: `Editor.rulesOf_of_isListing`, `Editor.rulesOf_toValue` and
  `Settings.Keeps.book_rules`.
-/
import Rulebook.Proofs.Book.Normal
import Rulebook.Proofs.Rule.Storable
import Rulebook.Editor.Basic

namespace Rulebook

/-! ## A book that is kept as the settings say -/

/-- Whether a book is kept as the settings say: with or without a sentinel, and with new rules where
they say. -/
structure Settings.Keeps (s : Settings) (b : Book) : Prop where
  hasFinal : b.hasFinal = s.hasFinal
  placement : b.placement = s.placement
  description : b.finalDescription = s.finalDescription
  sentinel : s.hasFinal = true → EndsInSentinel b.rules

variable {s : Settings} {b b' : Book}

theorem Settings.keeps_book (s : Settings) (rules : List Rule) : s.Keeps (s.book rules) := by
  refine ⟨rfl, rfl, rfl, fun h => ?_⟩
  rw [Settings.book, h]
  exact (Book.inOrder_new rules _ _).rules

/-- The book that is made of the list of a book that is kept so is that book. -/
theorem Settings.Keeps.book_rules (h : s.Keeps b) : s.book b.rules = b := by
  have h_rules : Book.normalise s.hasFinal s.finalDescription b.rules = b.rules := by
    unfold Book.normalise
    split
    · rename_i h_final
      exact Book.withSentinel_of_endsInSentinel (h.sentinel h_final)
    · rfl
  rw [Settings.book, Book.new, h_rules, ← h.hasFinal, ← h.placement, ← h.description]

/-- An edit keeps a book as it is kept. -/
theorem Settings.Keeps.edit {u : Undo} (h : s.Keeps b) (h_edit : Edit b b' u) : s.Keeps b' := by
  have h_eq := h_edit.eq_withRules
  refine ⟨?_, ?_, ?_, fun h_final => ?_⟩
  · rw [h_edit.hasFinal_eq, h.hasFinal]
  · rw [h_eq]
    exact h.placement
  · rw [h_eq]
    exact h.description
  · exact (h_edit.inOrder ⟨h.hasFinal.trans h_final, h.sentinel h_final⟩).rules

/-! ## Reading a payload -/

namespace Editor

/-- Rules that were read, if a list can hold them. -/
def holdable (rules : List Rule) : Except ReadingError (List Rule) :=
  if rules.all Rule.isHoldable then .ok rules else .error .tooDeep

/-- The rules of stored items, if all of them can be read and held. -/
def rulesOfItems (stored : Value) : Except ReadingError (List Rule) := do
  holdable (← (← stored.items?).mapM Rule.ofValue)

/-- A payload is read in three steps: its entries, the items under the key, and their rules. -/
theorem rulesOf_eq (s : Settings) (payload : Value) :
    rulesOf s payload =
      (if payload.truth then payload.entries? else .ok []) >>= fun es =>
        s.ruleKey.asName >>= fun key => rulesOfItems ((es.get? key).getD (.list [])) := by
  unfold rulesOf
  split <;> rfl

/-- Items that can all be read are held, unless one of them is too deep. -/
theorem rulesOfItems_map {α : Type} {read : α → Rule} {store : α → Value} {xs : List α}
    (h_read : ∀ x ∈ xs, Rule.ofValue (store x) = .ok (read x)) :
    rulesOfItems (.list (xs.map store)) = holdable (xs.map read) :=
  congrArg (· >>= holdable) (mapM_map_eq_ok h_read)

/-- Whether a document is a mapping that has under a name, if anything, a list of mappings. -/
def IsListing (name : Name) (document : Value) : Prop :=
  ∃ entries : Entries, document = .mapping entries ∧
    ∀ stored, entries.get? name = some stored →
      ∃ items : List Entries, stored = .list (items.map .mapping)

/-- The rules of a mapping are those of the items that it has under the name of the list. -/
theorem rulesOf_mapping {name : Name} (h_key : s.ruleKey.name? = some name) (entries : Entries) :
    rulesOf s (.mapping entries) = rulesOfItems ((entries.get? name).getD (.list [])) := by
  -- An empty mapping does not count as given, but it has no entries anyway.
  have h_entries : (if (Value.mapping entries).truth then (Value.mapping entries).entries?
      else .ok []) = .ok entries := by
    cases entries with
    | nil => rfl
    | cons e rest => rfl
  have h_name : s.ruleKey.asName = .ok name := by rw [Value.asName, h_key]
  rw [rulesOf_eq, h_entries, h_name]
  rfl

/-- **A listing is read**, whatever else the document has, unless a rule is too deep to be held. -/
theorem rulesOf_of_isListing {name : Name} (h_key : s.ruleKey.name? = some name)
    {document : Value} (h : IsListing name document) :
    ∃ rules, rulesOf s document = holdable rules := by
  obtain ⟨entries, rfl, h_stored⟩ := h
  rw [rulesOf_mapping h_key]
  cases h_get : entries.get? name with
  | none => exact ⟨[], rfl⟩
  | some stored =>
    obtain ⟨items, rfl⟩ := h_stored stored h_get
    exact ⟨_, rulesOfItems_map fun _ _ => rfl⟩

/-- Rules that were held are those that were read. -/
theorem eq_of_holdable {rules rules' : List Rule} (h : holdable rules = .ok rules') :
    rules' = rules := by
  unfold holdable at h
  split at h
  · exact (Except.ok.inj h).symm
  · exact nomatch h

/-- Only mappings are read as rules. -/
theorem items_of_ofValue {members : List Value} {rules : List Rule}
    (h : List.Forall₂ (fun v r => Rule.ofValue v = .ok r) members rules) :
    ∃ items : List Entries, members = items.map .mapping ∧ rules = items.map Rule.ofEntries := by
  induction h with
  | nil => exact ⟨[], rfl, rfl⟩
  | @cons v r members rules h_rule _ ih =>
    obtain ⟨items, rfl, rfl⟩ := ih
    obtain ⟨entries, h_entries, h_rule⟩ := bind_eq_ok_iff.1 h_rule
    obtain rfl := Except.ok.inj h_rule
    cases v with
    | mapping entries' =>
      obtain rfl := Except.ok.inj h_entries
      exact ⟨entries' :: items, rfl, rfl⟩
    | _ => exact nomatch h_entries

/-- Items whose rules are held are all mappings. -/
theorem items_of_rulesOfItems {members : List Value} {rules : List Rule}
    (h : rulesOfItems (.list members) = .ok rules) :
    ∃ items : List Entries, members = items.map .mapping ∧ rules = items.map Rule.ofEntries := by
  obtain ⟨members', h_items, h⟩ := bind_eq_ok_iff.1 h
  obtain rfl : members = members' := Except.ok.inj h_items
  obtain ⟨read, h_read, h⟩ := bind_eq_ok_iff.1 h
  obtain rfl := eq_of_holdable h
  exact items_of_ofValue (forall₂_of_mapM h_read)

/-- Where nothing was stored there is no rule. -/
theorem rulesOf_null {name : Name} (h_key : s.ruleKey.name? = some name) :
    rulesOf s .null = .ok [] := by
  have h_name : s.ruleKey.asName = .ok name := by rw [Value.asName, h_key]
  rw [rulesOf_eq]
  exact bind_eq_ok_iff.2 ⟨[], rfl, bind_eq_ok_iff.2 ⟨name, h_name, rfl⟩⟩

/-- The rules that were read can be stored. -/
theorem storable_of_rulesOf {payload : Value} {rules : List Rule}
    (h : rulesOf s payload = .ok rules) : ∀ r ∈ rules, r.Storable := by
  rw [rulesOf_eq] at h
  obtain ⟨es, -, h⟩ := bind_eq_ok_iff.1 h
  obtain ⟨key, -, h⟩ := bind_eq_ok_iff.1 h
  obtain ⟨items, -, h⟩ := bind_eq_ok_iff.1 h
  obtain ⟨rules', h_rules, h⟩ := bind_eq_ok_iff.1 h
  unfold holdable at h
  split at h
  · rename_i h_holdable
    obtain rfl := Except.ok.inj h
    intro r hr
    obtain ⟨v, -, h_read⟩ := exists_of_mem_mapM h_rules hr
    obtain ⟨entries, -, h_read⟩ := bind_eq_ok_iff.1 h_read
    have h_holds := List.all_eq_true.1 h_holdable r hr
    obtain rfl := Except.ok.inj h_read
    exact ⟨Rule.plain_ofEntries entries, h_holds⟩
  · exact nomatch h

/-- What was stored of storable rules is read as those rules. -/
theorem rulesOfItems_map_toValue {rules : List Rule} (h_rules : ∀ r ∈ rules, r.Storable) :
    rulesOfItems (.list (rules.map Rule.toValue)) = .ok rules := by
  have h_read : ∀ r ∈ rules, Rule.ofValue r.toValue = .ok (id r) := by
    intro r hr
    change Except.ok (Rule.ofEntries r.toEntries) = .ok r
    rw [Rule.ofEntries_toEntries (h_rules r hr).plain]
  have h_holdable : rules.all Rule.isHoldable = true :=
    List.all_eq_true.2 fun r hr => (h_rules r hr).holdable
  rw [rulesOfItems_map h_read, List.map_id, holdable, if_pos h_holdable]

/-- **The payload of a book of storable rules is read as the rules of the book.** -/
theorem rulesOf_toValue {name : Name} (h_key : s.ruleKey.name? = some name)
    (h_rules : ∀ r ∈ b.rules, r.Storable) : rulesOf s (b.toValue name) = .ok b.rules := by
  have h_mapping : rulesOf s (b.toValue name) = _ := rulesOf_mapping h_key _
  rw [h_mapping, Record.get?_cons, if_pos BEq.rfl, Option.getD_some]
  exact rulesOfItems_map_toValue h_rules

end Editor

end Rulebook
