/-
  Rulebook.Proofs.Dialog.Untouched

  Saving a dialog in which nothing was done.

  It is not the same as doing nothing: where the rule has nothing the dialog starts with a default,
  what it does not show is dropped, and the change before a rule is stored takes the blanks away.
  But what comes of that (`Headers.settled`) is a rule that has nothing more to be filled in,
  dropped or taken away (`Headers.settled_settled`).  That rule may be one that the check finds
  fault with, if there were only blanks in it; it is not stored again then, and stays where it is.

  Main statement: `Dialog.resaved_twice`.
-/
import Mathlib.Data.List.DropRight
import Rulebook.Proofs.Book.Row
import Rulebook.Proofs.Dialog.Filled
import Rulebook.Proofs.Dialog.Hidden
import Rulebook.Proofs.Rule.Storable

namespace Rulebook

/-! ## Trimming twice -/

namespace Text

/-- Nothing more leaves characters from whose ends all have left that do. -/
theorem trimBy_trimBy (leaves : Char → Bool) (cs : List Char) :
    trimBy leaves (trimBy leaves cs) = trimBy leaves cs := by
  have h_trim (cs : List Char) : trimBy leaves cs = (cs.dropWhile leaves).rdropWhile leaves := rfl
  have h_front : (trimBy leaves cs).dropWhile leaves = trimBy leaves cs := by
    rw [List.dropWhile_eq_self_iff]
    intro h_some
    -- What has lost its end still begins with the character that stayed in front.
    have h_prefix : trimBy leaves cs <+: cs.dropWhile leaves := List.rdropWhile_prefix leaves _
    have h_length := h_some.trans_le h_prefix.length_le
    have h_stays := List.head_dropWhile_not leaves (List.ne_nil_of_length_pos h_length)
    rw [List.head_eq_getElem, ← h_prefix.getElem h_some] at h_stays
    rw [h_stays]
    exact Bool.false_ne_true
  rw [h_trim (trimBy leaves cs), h_front, h_trim cs, List.rdropWhile_idempotent]

theorem trim_trim (s : String) : trim (trim s) = trim s := by
  rw [trim, trim, String.toList_ofList]
  exact congrArg String.ofList (trimBy_trimBy isBlank s.toList)

end Text

theorem Headers.trimmed_trimmed (v : Value) : trimmed (trimmed v) = trimmed v := by
  cases v with
  | text s => exact congrArg Value.text (Text.trim_trim s)
  | null | bool | int | float | list | mapping | foreign => rfl

/-! ## Filling in what is missing -/

/-- A value, or a default if there is none or it is empty. -/
def Value.given (v default : Value) : Value :=
  if v = .null ∨ v = .text "" then default else v

namespace Value

theorem given_given (v default : Value) : given (given v default) default = given v default := by
  by_cases h : v = .null ∨ v = .text ""
  · rw [given, given, if_pos h, ite_self]
  · rw [given, given, if_neg h, if_neg h]

/-- Filling in an empty text leaves a text as it is. -/
theorem given_empty_of_text {v : Value} (h : ∃ s, v = .text s) : given v (.text "") = v := by
  obtain ⟨s, rfl⟩ := h
  unfold given
  split
  · rename_i h_empty
    exact (h_empty.resolve_left nofun).symm
  · rfl

/-- A text that is filled in with a text is one. -/
theorem exists_text_of_given {v : Value} (h : ∃ s, v = .text s) (t : String) :
    ∃ s, given v (.text t) = .text s := by
  unfold given
  split
  · exact ⟨t, rfl⟩
  · exact h

end Value

namespace Dialog

/-- A field starts with what the rule has there and, if that is nothing, with what it starts with
for a new rule. -/
theorem startValue_of_new {schema : Schema} {isFinal : Bool} {f : Field Value} {e : Name × Value}
    (h : startValue schema none isFinal f = .ok e) (r : Rule) :
    startValue schema (some r) isFinal f = .ok (e.1, Value.given (r.get e.1) e.2) := by
  obtain ⟨name, h_name, h⟩ := bind_eq_ok_iff.1 h
  rw [if_pos (.inl rfl)] at h
  obtain ⟨v, h_default, h⟩ := bind_eq_ok_iff.1 h
  obtain rfl := Except.ok.inj h
  rw [startValue, h_name, Value.given]
  simp only [bind, Except.bind, h_default]
  split
  · rfl
  · rfl

/-- So the dialog of a rule starts with what is filled in where the rule has nothing. -/
theorem startValues_of_new {schema : Schema} {isFinal : Bool} {es : List (Name × Value)}
    (h : (schema.fields.filter fun f => f.appliesTo isFinal).mapM
      (startValue schema none isFinal) = .ok es) (r : Rule) :
    startValues schema (some r) isFinal =
      .ok (Record.ofList (es.map fun e => (e.1, Value.given (r.get e.1) e.2))) := by
  have h_each := forall₂_of_mapM h
  clear h
  rw [startValues]
  generalize schema.fields.filter (fun f => f.appliesTo isFinal) = fields at h_each
  have h_values : fields.mapM (startValue schema (some r) isFinal) =
      .ok (es.map fun e => (e.1, Value.given (r.get e.1) e.2)) := by
    induction h_each with
    | nil => rfl
    | cons h_first _ ih =>
      rw [List.mapM_cons, startValue_of_new h_first r, ih]
      rfl
  rw [h_values]
  rfl

end Dialog

namespace Headers

/-- What the fields of a rule that has nothing start with. -/
def defaults : Bool → Entries
  | false => [("type", .text "HEADER-KEYWORD"), ("match_value", .text ""),
      ("action", .text "REPLACE"), ("rewrite_header", .text "User-Agent"),
      ("rewrite_value", .text ""), ("description", .text "")]
  | true => [("action", .text "DIRECT"), ("rewrite_header", .text "User-Agent"),
      ("rewrite_value", .text ""), ("description", .text "")]

/-- What the fields of the dialog of a rule start with. -/
def firstValues (r : Rule) : Entries :=
  (defaults r.isFinal).map fun e => (e.1, Value.given (r.get e.1) e.2)

theorem distinct_firstValues (r : Rule) : Record.Distinct (Record.keys (firstValues r)) := by
  have h_keys : Record.keys (firstValues r) = Record.keys (defaults r.isFinal) := List.map_map
  rw [h_keys]
  cases r.isFinal <;> decide

/-- Every field starts with what the rule has there or, if that is nothing, with the default. -/
theorem startValues_eq (r : Rule) :
    Dialog.startValues schema (some r) r.isFinal = .ok (firstValues r) := by
  have h_new : (schema.fields.filter fun f => f.appliesTo r.isFinal).mapM
      (Dialog.startValue schema none r.isFinal) = .ok (defaults r.isFinal) := by
    cases r.isFinal <;> rfl
  have h_record := Record.ofList_of_distinct (distinct_firstValues r)
  rw [Dialog.startValues_of_new h_new r]
  exact congrArg Except.ok h_record

theorem get?_firstValues {r : Rule} {name : Name} {default : Value}
    (h : (name, default) ∈ defaults r.isFinal) :
    (firstValues r).get? name = some (Value.given (r.get name) default) := by
  have h_mem : (name, Value.given (r.get name) default) ∈ firstValues r :=
    List.mem_map.2 ⟨_, h, rfl⟩
  exact Record.get?_of_mem (distinct_firstValues r) h_mem

theorem action_mem_defaults (isFinal : Bool) :
    (.text "action", .text (if isFinal then "DIRECT" else "REPLACE")) ∈ defaults isFinal := by
  cases isFinal <;> simp [defaults]

/-! ## What comes of a rule -/

/-- The action that the dialog of a rule starts with. -/
def firstAction (r : Rule) : Value :=
  r.action.given (.text (if r.isFinal then "DIRECT" else "REPLACE"))

/-- What the dialog of a rule makes of it if nothing is done there: what is missing is filled in,
and what is not shown is dropped. -/
def refilled (r : Rule) : Rule.Attributes where
  ruleType := if r.isFinal then Rule.finalType else r.ruleType.given (.text "HEADER-KEYWORD")
  matchValue := if r.isFinal then .text "" else r.matchValue
  action := firstAction r
  rewriteValue := if (firstAction r).isAmong rewritingActions then r.rewriteValue else .text ""
  description := r.description
  enabled := r.enabled
  extra := if (firstAction r).isAmong passiveActions then []
    else [("rewrite_header", (r.get "rewrite_header").given (.text "User-Agent"))]

/-- The rule that is stored when nothing was done in the dialog of a rule. -/
def settled (r : Rule) : Rule :=
  trimRule (Rule.ofAttributes (refilled r))

/-- A normal rule is not given the type of a sentinel. -/
theorem ruleType_refilled_iff {r : Rule} :
    (refilled r).ruleType = Rule.finalType ↔ r.isFinal = true := by
  cases h : r.isFinal with
  | true =>
    have h_type : (refilled r).ruleType = Rule.finalType := by
      rw [refilled, h, if_pos rfl]
    exact iff_of_true h_type rfl
  | false =>
    have h_type : (refilled r).ruleType = r.ruleType.given (.text "HEADER-KEYWORD") := by
      rw [refilled, h, if_neg Bool.false_ne_true]
    rw [h_type, Value.given]
    refine iff_of_false ?_ Bool.false_ne_true
    split
    · decide
    · exact Rule.ruleType_ne_of_not_isFinal h

/-- The rule that is stored has what was filled in, without the blanks around it. -/
theorem attributes_settled (r : Rule) :
    (settled r).attributes =
      { refilled r with
        matchValue := trimmed (refilled r).matchValue
        rewriteValue := trimmed (refilled r).rewriteValue
        description := trimmed (refilled r).description } := by
  have h_rule := Rule.attributes_ofAttributes (refilled r)
  -- A sentinel is enabled as it is.
  have h_enabled : (if (refilled r).ruleType = Rule.finalType then .bool true
      else (refilled r).enabled) = (refilled r).enabled := by
    split
    · rename_i h_type
      have h_final := ruleType_refilled_iff.1 h_type
      exact (Rule.ruleType_enabled_of_isFinal h_final).2.symm
    · rfl
  rw [h_enabled] at h_rule
  exact congrArg (fun a : Rule.Attributes => { a with
    matchValue := trimmed a.matchValue
    rewriteValue := trimmed a.rewriteValue
    description := trimmed a.description }) h_rule

theorem isFinal_settled (r : Rule) : (settled r).isFinal = r.isFinal := by
  have h_type : (settled r).ruleType = (refilled r).ruleType :=
    congrArg Rule.Attributes.ruleType (attributes_settled r)
  rw [Bool.eq_iff_iff, Rule.isFinal_iff_ruleType, h_type, ruleType_refilled_iff]

theorem kind_settled (r : Rule) : (settled r).kind = r.kind := by
  have h := isFinal_settled r
  cases h_kind : r.isFinal with
  | true =>
    rw [h_kind] at h
    rw [Rule.isFinal_iff.1 h, Rule.isFinal_iff.1 h_kind]
  | false =>
    rw [h_kind] at h
    rw [Rule.isFinal_eq_false_iff.1 h, Rule.isFinal_eq_false_iff.1 h_kind]

/-- There is nothing to be filled in in the rule that is stored, and nothing to be dropped. -/
theorem refilled_settled (r : Rule) : refilled (settled r) = (settled r).attributes := by
  have h := attributes_settled r
  have h_type : (settled r).ruleType = (refilled r).ruleType := congrArg Rule.Attributes.ruleType h
  have h_match : (settled r).matchValue = trimmed (refilled r).matchValue :=
    congrArg Rule.Attributes.matchValue h
  have h_rewrite : (settled r).rewriteValue = trimmed (refilled r).rewriteValue :=
    congrArg Rule.Attributes.rewriteValue h
  have h_header : (settled r).get "rewrite_header" =
      ((refilled r).extra.get? "rewrite_header").getD .null :=
    congrArg (fun a : Rule.Attributes => (a.extra.get? "rewrite_header").getD .null) h
  -- What is dropped depends on the action, and that is there by now.
  have h_action : firstAction (settled r) = firstAction r := by
    have h_given : (settled r).action = firstAction r := congrArg Rule.Attributes.action h
    rw [firstAction, isFinal_settled, h_given]
    exact Value.given_given _ _
  rw [h, refilled]
  simp only [isFinal_settled, h_action, h_header, h_type, h_match, h_rewrite,
    Rule.Attributes.mk.injEq]
  refine ⟨?type, ?matchValue, rfl, ?rewriteValue, ?description, ?enabled, ?extra⟩
  case type =>
    simp only [refilled]
    split
    · rfl
    · exact Value.given_given _ _
  case matchValue =>
    simp only [refilled]
    split
    · rfl
    · rfl
  case rewriteValue =>
    simp only [refilled]
    split
    · rfl
    · rfl
  case description => exact congrArg Rule.Attributes.description h
  case enabled => exact congrArg Rule.Attributes.enabled h
  case extra =>
    simp only [refilled]
    split
    · rfl
    · rw [Record.get?_cons, BEq.rfl, if_pos rfl, Option.getD_some, Value.given_given]

theorem trimRule_trimRule (r : Rule) : trimRule (trimRule r) = trimRule r := by
  simp only [trimRule, trimmed_trimmed]

theorem settled_settled (r : Rule) : settled (settled r) = settled r := by
  rw [settled, refilled_settled, Rule.ofAttributes_attributes, settled, trimRule_trimRule]

end Headers

namespace Dialog

variable {form : Form} {r : Rule} {b : Book} {i : Int}

/-! ## A dialog in which nothing was done -/

/-- The draft that the dialog of a rule at a position starts with. -/
def untouched (r : Rule) (i : Int) : Draft :=
  firstDraft (some r) i (Headers.firstValues r)

/-- The dialog that is opened on a rule. -/
theorem open_untouched (h_schema : form.schema = Headers.schema) (r : Rule) (i : Int) :
    ({} : Dialog).open form (some r) i = .ok (ofDraft form (untouched r i)) := by
  have h_names : form.schema.hasNames = true := by
    rw [h_schema]
    decide
  have h_values : startValues form.schema (some r) ((some r).any Rule.isFinal) =
      .ok (Headers.firstValues r) := by
    rw [h_schema]
    exact Headers.startValues_eq r
  unfold «open»
  simp only [h_values]
  rw [if_neg (by decide), showing_of_hasNames h_names]
  rfl

/-- A text of the draft is the one of the rule, or the default. -/
theorem text_untouched {name : Name} {t : String}
    (h_field : (name, .text t) ∈ Headers.defaults r.isFinal) (h_text : ∃ s, r.get name = .text s)
    (i : Int) : Value.text ((untouched r i).text name) = (r.get name).given (.text t) := by
  have h_get : (untouched r i).values.get? name = some ((r.get name).given (.text t)) :=
    Headers.get?_firstValues h_field
  obtain ⟨s, hs⟩ := Value.exists_text_of_given h_text t
  rw [Draft.text, h_get, Option.getD_some, hs, Value.shownOrEmpty_text]

/-- Its action is what decides about the fields that are shown. -/
theorem get?_action_untouched (r : Rule) (i : Int) :
    (untouched r i).values.get? "action" = some (Headers.firstAction r) :=
  Headers.get?_firstValues (Headers.action_mem_defaults r.isFinal)

/-- The candidate of the dialog of a rule if nothing is done there. -/
def remade (form : Form) (r : Rule) (i : Int) : Rule :=
  (ofDraft form (untouched r i)).candidateOf (untouched r i)

section

variable (h_schema : form.schema = Headers.schema) (h : r.Plain) (i)
include h_schema

theorem visibility_untouched :
    (ofDraft form (untouched r i)).visibility =
      Headers.shownOf (untouched r i).values r.isFinal := by
  rw [ofDraft, h_schema]
  rfl

/-- What is shown goes to the candidate as the text of the rule, or as the default. -/
theorem shown_untouched {name : Name} {t : String} {shown : Bool}
    (h_field : (name, .text t) ∈ Headers.defaults r.isFinal) (h_text : ∃ s, r.get name = .text s)
    (h_shown : (Headers.shownOf (untouched r i).values r.isFinal).isShown name = shown) :
    Value.text (if (ofDraft form (untouched r i)).visibility.isShown name then
        (untouched r i).text name else "") =
      if shown then (r.get name).given (.text t) else .text "" := by
  rw [visibility_untouched i h_schema, h_shown, ← text_untouched h_field h_text i]
  cases shown <;> rfl

include h

theorem ruleType_remade : (remade form r i).ruleType = (Headers.refilled r).ruleType := by
  cases h_final : r.isFinal with
  | true =>
    have h_kind : (remade form r i).isFinal = true := isFinal_candidateOf _ h_final
    rw [Rule.isFinal_iff_ruleType.1 h_kind, Headers.refilled, h_final, if_pos rfl]
  | false =>
    have h_field : (.text "type", .text "HEADER-KEYWORD") ∈ Headers.defaults r.isFinal := by
      rw [h_final]
      simp [Headers.defaults]
    have h_shown : (Headers.shownOf (untouched r i).values r.isFinal).isShown "type" = true := by
      rw [h_final]
      exact Headers.isShown_type _
    rw [remade, ruleType_candidateOf _ h_final,
      shown_untouched i h_schema h_field h.ruleType h_shown, if_pos rfl, Headers.refilled, h_final,
      if_neg Bool.false_ne_true]
    rfl

theorem matchValue_remade : (remade form r i).matchValue = (Headers.refilled r).matchValue := by
  have h_shown := Headers.isShown_matchValue (untouched r i).values r.isFinal
  rw [remade, matchValue_candidateOf, Headers.refilled]
  cases h_final : r.isFinal with
  | true =>
    rw [h_final] at h_shown
    rw [visibility_untouched i h_schema, h_final, h_shown]
    rfl
  | false =>
    have h_field : (.text "match_value", .text "") ∈ Headers.defaults r.isFinal := by
      rw [h_final]
      simp [Headers.defaults]
    rw [shown_untouched i h_schema h_field h.matchValue h_shown, h_final, Bool.not_false,
      if_pos rfl, if_neg Bool.false_ne_true]
    exact Value.given_empty_of_text h.matchValue

theorem action_remade : (remade form r i).action = (Headers.refilled r).action := by
  have h_field := Headers.action_mem_defaults r.isFinal
  have h_shown := Headers.isShown_action (untouched r i).values r.isFinal
  rw [remade, action_candidateOf, shown_untouched i h_schema h_field h.action h_shown, if_pos rfl]
  rfl

theorem rewriteValue_remade :
    (remade form r i).rewriteValue = (Headers.refilled r).rewriteValue := by
  have h_field : (.text "rewrite_value", .text "") ∈ Headers.defaults r.isFinal := by
    cases r.isFinal <;> simp [Headers.defaults]
  have h_shown : (Headers.shownOf (untouched r i).values r.isFinal).isShown "rewrite_value" =
      (Headers.firstAction r).isAmong Headers.rewritingActions :=
    Headers.isShown_rewriteValue (get?_action_untouched r i)
  have h_same : (r.get "rewrite_value").given (.text "") = r.rewriteValue :=
    Value.given_empty_of_text h.rewriteValue
  rw [remade, rewriteValue_candidateOf,
    shown_untouched i h_schema h_field h.rewriteValue h_shown, h_same]
  rfl

theorem description_remade : (remade form r i).description = (Headers.refilled r).description := by
  have h_field : (.text "description", .text "") ∈ Headers.defaults r.isFinal := by
    cases r.isFinal <;> simp [Headers.defaults]
  have h_shown := Headers.isShown_description (untouched r i).values r.isFinal
  rw [remade, description_candidateOf, shown_untouched i h_schema h_field h.description h_shown,
    if_pos rfl]
  exact Value.given_empty_of_text h.description

theorem enabled_remade : (remade form r i).enabled = (Headers.refilled r).enabled := by
  have h_kind : (remade form r i).isFinal = r.isFinal := by
    rw [Bool.eq_iff_iff, Rule.isFinal_iff_ruleType, ruleType_remade i h_schema h,
      Headers.ruleType_refilled_iff]
  obtain ⟨flag, h_flag⟩ := h.enabled
  rw [remade, enabled_candidateOf, ← remade, h_kind]
  cases h_final : r.isFinal with
  | true => exact (Rule.ruleType_enabled_of_isFinal h_final).2.symm
  | false =>
    rw [Bool.false_or]
    change Value.bool r.enabled.flag = r.enabled
    rw [h_flag]
    rfl

omit h in
theorem extra_remade : (remade form r i).extra = (Headers.refilled r).extra := by
  have h_own : ((untouched r i).values.filter fun e => !Rule.attributeNames.contains e.1) =
      [(Name.text "rewrite_header", (r.get "rewrite_header").given (.text "User-Agent"))] := by
    change (Headers.firstValues r).filter _ = _
    unfold Headers.firstValues
    cases r.isFinal <;> rfl
  have h_shown : (Headers.shownOf (untouched r i).values r.isFinal).isShown "rewrite_header" =
      !(Headers.firstAction r).isAmong Headers.passiveActions :=
    Headers.isShown_rewriteHeader (get?_action_untouched r i)
  rw [remade, extra_candidateOf, shownValues, List.filter_comm, h_own, List.filter_singleton,
    visibility_untouched i h_schema, h_shown, Headers.refilled]
  cases (Headers.firstAction r).isAmong Headers.passiveActions <;> rfl

/-- **The candidate of a dialog in which nothing was done.** -/
theorem remade_eq : remade form r i = Rule.ofAttributes (Headers.refilled r) := by
  rw [← Rule.ofAttributes_attributes (remade form r i), Rule.attributes,
    ruleType_remade i h_schema h, matchValue_remade i h_schema h, action_remade i h_schema h,
    rewriteValue_remade i h_schema h, description_remade i h_schema h, enabled_remade i h_schema h,
    extra_remade i h_schema]

end

theorem plain_settled (h : r.Plain) : (Headers.settled r).Plain := by
  have h_candidate : (remade { schema := Headers.schema } r 0).Plain := Rule.plain_ofEntries _
  rw [remade_eq 0 rfl h] at h_candidate
  exact h_candidate.trimRule

/-! ## Saving -/

/-- What comes of opening a dialog on the rule at a position and committing it, with nothing done in
between: the book, and what the commit came to. -/
def resaved (form : Form) (b : Book) (i : Int) : Except Error (Book × Commit) := do
  let r ← (b.get i).mapError .refused
  let opened ← ({} : Dialog).open form (some r) i
  let ended ← opened.commit form b
  return ended.2

/-- The settled rule is of the kind of the rule, so the book takes it in the place of that. -/
theorem store_settled (h_at : Arrangement.at? b.rules i = some r) :
    store b (untouched r i) (Headers.settled r) =
      .ok (b.put i (Headers.settled r), .stored (Headers.settled r) i (some r)) := by
  have h_old : (untouched r i).isNew = false :=
    decide_eq_false (Int.not_lt.2 (Arrangement.toNat_lt_of_at? h_at).1)
  have h_replace := Book.replace_eq b i (Headers.settled r)
  simp only [h_at, Headers.kind_settled, if_true] at h_replace
  rw [store, h_old, if_neg Bool.false_ne_true]
  change (b.replace i _ >>= _) = _
  rw [h_replace]
  rfl

section

variable (h_schema : form.schema = Headers.schema)
  (h_check : form.validator = some Headers.validate)
  (h_change : form.transformer = some Headers.transform) (h : r.Plain)
  (h_at : Arrangement.at? b.rules i = some r)
include h_schema h_check h_change h h_at

/-- A commit comes to nothing if the check finds something wrong with the candidate, and puts the
settled rule in the place of the rule otherwise. -/
theorem commit_untouched :
    (ofDraft form (untouched r i)).commit form b =
      match Headers.validate (Rule.ofAttributes (Headers.refilled r)) r.isFinal with
      | some message => .ok (ofDraft form (untouched r i), b, .invalid message i)
      | none => .ok ({ ofDraft form (untouched r i) with stage := .committed },
          b.put i (Headers.settled r), .stored (Headers.settled r) i (some r)) := by
  have h_kind : (untouched r i).isFinal = r.isFinal := rfl
  have h_candidate : (ofDraft form (untouched r i)).candidateOf (untouched r i) =
      Rule.ofAttributes (Headers.refilled r) := remade_eq i h_schema h
  have h_finished : form.finished (Rule.ofAttributes (Headers.refilled r)) r.isFinal =
      Headers.settled r := by
    rw [Form.finished, h_change]
    rfl
  rw [commit, openDraft_ofDraft]
  simp only [bind, Except.bind, h_candidate, h_kind, Headers.complaint_eq h_check, h_finished]
  cases Headers.validate (Rule.ofAttributes (Headers.refilled r)) r.isFinal with
  | some message => rfl
  | none =>
    simp only [store_settled h_at]
    rfl

/-- Saving comes to nothing, or to the settled rule in the place of the rule. -/
theorem resaved_cases :
    (∃ message, resaved form b i = .ok (b, .invalid message i)) ∨
      resaved form b i =
        .ok (b.put i (Headers.settled r), .stored (Headers.settled r) i (some r)) := by
  have h_get : (b.get i).mapError Error.refused = .ok r := by
    rw [Book.get_eq_ok_iff.2 h_at]
    rfl
  have h_commit := commit_untouched h_schema h_check h_change h h_at
  have h_resaved : resaved form b i =
      ((ofDraft form (untouched r i)).commit form b).map Prod.snd := by
    rw [resaved, h_get]
    change (({} : Dialog).open form (some r) i >>= _) = _
    rw [open_untouched h_schema]
    rfl
  rw [h_resaved, h_commit]
  cases Headers.validate (Rule.ofAttributes (Headers.refilled r)) r.isFinal with
  | some message => exact .inl ⟨message, rfl⟩
  | none => exact .inr rfl

end

/-- **Saving an untouched dialog twice is saving it once.**  A dialog of the header rules is opened
on any rule of a book of plain rules, whatever these have beside their attributes, and is committed
with nothing done in between.  Then the same is done again, in the book that this has led to.
Neither commit is refused by the book, and the second one leaves the list as it is.  The first one
leaves it as it is too, with a rule that the check finds fault with, or puts the settled rule in the
place of the rule. -/
theorem resaved_twice (b : Book) (i : Int) (h_plain : ∀ r ∈ b.rules, r.Plain) (h_first : 0 ≤ i)
    (h_last : i < b.size) :
    let form : Form := ⟨Headers.schema, some Headers.validate, some Headers.transform⟩
    ∃ r b' once twice, b.get i = .ok r ∧
      resaved form b i = .ok (b', once) ∧ resaved form b' i = .ok (b', twice) ∧
      ((∃ message, once = .invalid message i ∧ b' = b) ∨
        once = .stored (Headers.settled r) i (some r) ∧
          b' = b.withRules (b.rules.set i.toNat (Headers.settled r))) := by
  intro form
  have h_range : Arrangement.inRange b.rules i = true :=
    Arrangement.inRange_iff.2 ⟨h_first, h_last⟩
  obtain ⟨r, h_at⟩ := Arrangement.at?_eq_some_of_inRange h_range
  have h_get := Book.get_eq_ok_iff.2 h_at
  have h_rule : r.Plain := h_plain r (List.mem_of_getElem? (Arrangement.at?_eq_some_iff.1 h_at).2)
  have h_once : (∃ message, resaved form b i = .ok (b, .invalid message i)) ∨ _ :=
    resaved_cases rfl rfl rfl h_rule h_at
  rcases h_once with ⟨message, h_invalid⟩ | h_stored
  · exact ⟨r, b, _, _, h_get, h_invalid, h_invalid, .inl ⟨message, rfl, rfl⟩⟩
  · -- What is in the place now is settled, so what would be stored there is there already.
    have h_there := Book.at?_put_self h_at (Headers.settled r)
    have h_same : (b.put i (Headers.settled r)).put i (Headers.settled r) =
        b.put i (Headers.settled r) := by
      simp only [Book.put, Book.withRules_withRules, Book.rules_withRules, List.set_set]
    have h_twice : (∃ message, resaved form _ i = .ok (_, .invalid message i)) ∨ _ :=
      resaved_cases rfl rfl rfl (plain_settled h_rule) h_there
    rw [Headers.settled_settled, h_same] at h_twice
    rcases h_twice with ⟨message, h_invalid⟩ | h_again
    · exact ⟨r, _, _, _, h_get, h_stored, h_invalid, .inr ⟨rfl, rfl⟩⟩
    · exact ⟨r, _, _, _, h_get, h_stored, h_again, .inr ⟨rfl, rfl⟩⟩

/-- A rule with blanks around what it matches, and with no type and no action. -/
theorem resaved_twice_of_bare :
    let form : Form := ⟨Headers.schema, some Headers.validate, some Headers.transform⟩
    let bare := Rule.ofEntries [("match_value", .text " agent "), ("rewrite_value", .text "plain"),
      ("tag", .int 7)]
    let b : Book := Book.new [bare, Rule.ofEntries [("type", .text "FINAL")]]
    (∀ r ∈ b.rules, r.Plain) ∧ (0 : Int) ≤ 0 ∧ (0 : Int) < b.size ∧
      ∃ r b' once twice, b.get 0 = .ok r ∧
        resaved form b 0 = .ok (b', once) ∧ resaved form b' 0 = .ok (b', twice) ∧
        ((∃ message, once = .invalid message 0 ∧ b' = b) ∨
          once = .stored (Headers.settled r) 0 (some r) ∧
            b' = b.withRules (b.rules.set 0 (Headers.settled r))) := by
  intro form bare b
  have h_rules : b.rules = [bare, Rule.ofEntries [("type", .text "FINAL")]] := by decide +kernel
  have h_plain : ∀ r ∈ b.rules, r.Plain := by
    intro r hr
    rw [h_rules] at hr
    rcases List.mem_pair.1 hr with rfl | rfl
    · exact Rule.plain_ofEntries _
    · exact Rule.plain_ofEntries _
  have h_size : (0 : Int) < b.size := by decide +kernel
  exact ⟨h_plain, Int.le_refl 0, h_size, resaved_twice b 0 h_plain (Int.le_refl 0) h_size⟩

/-- A blank to match is taken away, and the rule that is stored is one that the check finds fault
with: it is there, and cannot be saved again as it is. -/
example :
    let form : Form := ⟨Headers.schema, some Headers.validate, some Headers.transform⟩
    let b : Book := Book.new [Rule.ofEntries [("match_value", .text " "), ("action", .text "DROP")]]
    ((resaved form b 0).bind fun p => resaved form p.1 0).map Prod.snd =
      .ok (.invalid "Match value is required" 0) := by
  decide +kernel

end Dialog

end Rulebook
