/-
  Rulebook.Proofs.Storage.File

  A file that was saved is loaded as what was saved.

  A path leads through folders only.  Whatever happens at a spot where there is no folder does not
  change where a path leads, as long as the folders stay (`Tree.find_of_folders`).  So the temporary
  file is found where it was written, and the document where it was moved to.

  A save whose paths can be used (`File.Ready`) fails because of its payload only, and then the
  document is as it was: up to the last step it is the temporary file that is written.  Exactly the
  documents that are tame are saved (`File.verdict_eq_saved_iff`).
-/
import Rulebook.Proofs.Json.Bytes
import Rulebook.Proofs.Outcome
import Rulebook.Storage.File

namespace Rulebook.Storage

/-- Whether a payload is a document that can be put down. -/
def Savable (payload : Value) : Prop :=
  Json.isDocument payload = true ∧ payload.Tame

instance (payload : Value) : Decidable (Savable payload) :=
  inferInstanceAs (Decidable (_ ∧ _))

/-- What is written of a payload, if it can be written, is read as the payload. -/
def ReadsBack (w : Json.Writer) (payload : Value) : Prop :=
  ∀ text ∈ (Json.print w payload).toOption, Json.parse text = .ok payload

instance (w : Json.Writer) (payload : Value) : Decidable (ReadsBack w payload) :=
  inferInstanceAs (Decidable (∀ text ∈ (Json.print w payload).toOption, _))

theorem ReadsBack.parse {w : Json.Writer} {payload : Value} (h : ReadsBack w payload)
    {text : String} (h_text : Json.print w payload = .ok text) : Json.parse text = .ok payload :=
  h text (by rw [h_text]; rfl)

namespace Tree

variable {t t' : Tree} {p : Path} {s : Spot} {n : Node}

/-! ## Where a path leads -/

/-- All folders of one tree are folders of another one. -/
def FoldersStay (t t' : Tree) : Prop :=
  ∀ s, t.at? s = some .folder → t'.at? s = some .folder

/-- A walk that leads somewhere leads there as long as the folders on the way stay. -/
theorem walk_of_folders (h : t.FoldersStay t') {u v : Spot} {parts : List String}
    (h_walk : t.walk u parts = .ok v) : t'.walk u parts = .ok v := by
  induction parts generalizing u with
  | nil => exact h_walk
  | cons part rest ih =>
    unfold walk at h_walk ⊢
    split at h_walk
    · exact nomatch h_walk
    · rename_i h_folder
      rw [h u h_folder]
      dsimp only
      split at h_walk
      · rename_i h_up
        rw [if_pos h_up]
        exact ih h_walk
      · rename_i h_down
        rw [if_neg h_down]
        split at h_walk
        · exact nomatch h_walk
        · rename_i h_short
          rw [if_neg h_short]
          exact ih h_walk
    · exact nomatch h_walk

theorem find_of_folders (h : t.FoldersStay t') (h_find : t.find p = .ok s) : t'.find p = .ok s := by
  unfold find at h_find ⊢
  split at h_find
  · exact nomatch h_find
  · rename_i h_null
    rw [if_neg h_null]
    split at h_find
    · exact nomatch h_find
    · rename_i h_size
      rw [if_neg h_size]
      exact walk_of_folders h h_find

/-- Where there is no folder there is no top. -/
theorem parts_ne_nil (h : (t.at? s).any Node.isFolder = false) : s.parts ≠ [] := by
  intro h_top
  rw [at?, if_pos h_top] at h
  cases h

theorem ne_of_folder (h : (t.at? s).any Node.isFolder = false) {u : Spot}
    (hu : t.at? u = some .folder) : u ≠ s := by
  rintro rfl
  rw [hu] at h
  exact nomatch h

theorem foldersStay_put (h : (t.at? s).any Node.isFolder = false) (n : Node) :
    t.FoldersStay (t.put s n) := by
  intro u hu
  rw [at?_put_of_ne (ne_of_folder h hu), hu]

/-! ## Writing and moving -/

theorem write_eq_ok_iff :
    t.write p n = .ok t' ↔
      ∃ s, t.find p = .ok s ∧ (t.at? s).any Node.isFolder = false ∧ t' = t.put s n := by
  unfold write
  rw [bind_eq_ok_iff]
  refine exists_congr fun s => and_congr_right fun _ => ?_
  cases h_folder : (t.at? s).any Node.isFolder with
  | true =>
    constructor
    · intro h
      exact nomatch h
    · intro h
      exact nomatch h.1
  | false =>
    constructor
    · intro h
      exact ⟨rfl, (Except.ok.inj h).symm⟩
    · rintro ⟨-, rfl⟩
      rfl

/-- What was written is found. -/
theorem look_of_write (h : t.write p n = .ok t') : t'.look p = .ok n := by
  obtain ⟨s, h_find, h_folder, rfl⟩ := write_eq_ok_iff.1 h
  have h_found := find_of_folders (foldersStay_put h_folder n) h_find
  refine bind_eq_ok_iff.2 ⟨s, h_found, ?_⟩
  rw [at?_put_self (parts_ne_nil h_folder)]
  rfl

/-- What is moved to a place is found there. -/
theorem look_of_move {source target : Path} (h : t.move source target = .ok t')
    (h_source : t.look source = .ok n) : t'.look target = .ok n := by
  obtain ⟨n', h_look, h⟩ := bind_eq_ok_iff.1 h
  obtain rfl := Except.ok.inj (h_source.symm.trans h_look)
  obtain ⟨s, -, h⟩ := bind_eq_ok_iff.1 h
  exact look_of_write h

/-! ## Spots of files -/

/-- The folders of two trees are the same. -/
def SameFolders (t t' : Tree) : Prop :=
  ∀ s, t.at? s = some .folder ↔ t'.at? s = some .folder

theorem SameFolders.stay (h : t.SameFolders t') : t.FoldersStay t' :=
  fun s => (h s).1

theorem SameFolders.trans {t'' : Tree} (h : t.SameFolders t') (h' : t'.SameFolders t'') :
    t.SameFolders t'' :=
  fun s => (h s).trans (h' s)

/-- A file that is written where there is no folder makes no difference to the folders. -/
theorem sameFolders_put (h : (t.at? s).any Node.isFolder = false) (text : String) :
    t.SameFolders (t.put s (.ofText text)) := by
  intro u
  by_cases hu : u = s
  · subst hu
    rw [at?_put_self (parts_ne_nil h)]
    constructor
    · intro h_folder
      exact absurd rfl (ne_of_folder h h_folder)
    · intro h_file
      exact nomatch h_file
  · rw [at?_put_of_ne hu]

/-- Neither does it make a difference to them that a file is taken away. -/
theorem sameFolders_remove (h : (t.at? s).any Node.isFolder = false) :
    t.SameFolders (t.remove s) := by
  intro u
  by_cases hu : u = s
  · subst hu
    rw [at?_remove_self (parts_ne_nil h)]
    constructor
    · intro h_folder
      exact absurd rfl (ne_of_folder h h_folder)
    · intro h_file
      exact nomatch h_file
  · rw [at?_remove_of_ne hu]

/-- A path leads to a spot where a file is, or can be. -/
def LeadsToFile (t : Tree) (p : Path) (s : Spot) : Prop :=
  t.find p = .ok s ∧ (t.at? s).any Node.isFolder = false

theorem any_isFolder_iff : (t.at? s).any Node.isFolder = true ↔ t.at? s = some .folder := by
  cases t.at? s with
  | none => simp
  | some n => cases n <;> simp [Node.isFolder]

theorem LeadsToFile.of_sameFolders (h : t.LeadsToFile p s) (h_same : t.SameFolders t') :
    t'.LeadsToFile p s := by
  refine ⟨find_of_folders h_same.stay h.1, Bool.eq_false_iff.2 fun h_folder => ?_⟩
  have h_old : t.at? s = some .folder := (h_same s).2 (any_isFolder_iff.1 h_folder)
  exact ne_of_folder h.2 h_old rfl

/-- A file can be written where a path leads to one. -/
theorem LeadsToFile.write (h : t.LeadsToFile p s) (n : Node) : t.write p n = .ok (t.put s n) :=
  write_eq_ok_iff.2 ⟨s, h.1, h.2, rfl⟩

/-- What a path leads to is what is at its spot. -/
theorem look_of_find (h : t.find p = .ok s) :
    t.look p = match t.at? s with
      | some n => .ok n
      | none => .error .missing := by
  rw [look, h]
  dsimp only [bind, Except.bind]
  cases t.at? s <;> rfl

theorem look_eq_ok_iff : t.look p = .ok n ↔ ∃ s, t.find p = .ok s ∧ t.at? s = some n := by
  constructor
  · intro h
    obtain ⟨s, h_find, -⟩ := bind_eq_ok_iff.1 h
    refine ⟨s, h_find, ?_⟩
    rw [look_of_find h_find] at h
    split at h
    · rename_i h_some
      rw [h_some, Except.ok.inj h]
    · exact nomatch h
  · rintro ⟨s, h_find, h_at⟩
    rw [look_of_find h_find, h_at]

/-- A walk of several parts goes on from where the first ones have led to. -/
theorem walk_append (t : Tree) (u : Spot) (parts rest : List String) :
    t.walk u (parts ++ rest) = t.walk u parts >>= fun v => t.walk v rest := by
  induction parts generalizing u with
  | nil => rfl
  | cons part parts ih =>
    rw [List.cons_append, walk, walk]
    cases t.at? u with
    | none => rfl
    | some n =>
      cases n with
      | folder =>
        dsimp only
        split
        · exact ih u.up
        · split
          · rfl
          · exact ih (u.child part)
      | file bytes => rfl
      | database contents => rfl

/-- The last part of a path leads one folder up, or to what has that name in the folder. -/
theorem eq_of_walk_singleton {u v : Spot} {part : String} (h : t.walk u [part] = .ok v) :
    v = if part = ".." then u.up else u.child part := by
  unfold walk at h
  split at h
  · exact nomatch h
  · split at h
    · rename_i h_up
      rw [if_pos h_up]
      exact (Except.ok.inj h).symm
    · rename_i h_down
      rw [if_neg h_down]
      split at h
      · exact nomatch h
      · exact (Except.ok.inj h).symm
  · exact nomatch h

theorem walk_of_find (h : t.find p = .ok s) : t.walk { root := p.root } p.parts = .ok s := by
  unfold find at h
  split at h
  · exact nomatch h
  · split at h
    · exact nomatch h
    · exact h

/-- The file beside another one, whose name is longer, is at another spot. -/
theorem ne_of_beside {ending : String} {p' : Path} {s' : Spot} (h_long : 2 < ending.length)
    (h_beside : p.beside? ending = some p') (h : t.find p = .ok s) (h' : t.find p' = .ok s') :
    s ≠ s' := by
  obtain ⟨name, h_name, rfl⟩ := Option.map_eq_some_iff.1 h_beside
  have h_parts : p.parts = p.parts.dropLast ++ [name] := by
    obtain ⟨init, h_init⟩ := List.getLast?_eq_some_iff.1 h_name
    rw [h_init, List.dropLast_concat]
  have h_walk := walk_of_find h
  have h_walk' := walk_of_find h'
  rw [h_parts, walk_append] at h_walk
  dsimp only at h_walk'
  rw [walk_append] at h_walk'
  -- Both are in the folder that the parts before the last one lead to.
  obtain ⟨u, hu, h_last⟩ := bind_eq_ok_iff.1 h_walk
  obtain ⟨u', hu', h_last'⟩ := bind_eq_ok_iff.1 h_walk'
  obtain rfl := Except.ok.inj (hu.symm.trans hu')
  have h_length : (name ++ ending).length = name.length + ending.length :=
    String.length_append name ending
  have h_down : name ++ ending ≠ ".." := by
    intro h_up
    rw [h_up] at h_length
    have h_two : "..".length = 2 := rfl
    omega
  have hs := eq_of_walk_singleton h_last
  have hs' := eq_of_walk_singleton h_last'
  rw [if_neg h_down] at hs'
  rw [hs, hs']
  split
  · intro h_same
    have h_shorter : u.up.parts.length ≤ u.parts.length := by
      unfold Spot.up
      split
      · split <;> simp
      · simp
    rw [h_same, Spot.child, List.length_append, List.length_singleton] at h_shorter
    omega
  · intro h_same
    have h_names := congrArg (fun s => s.parts.getLast?) h_same
    simp only [Spot.child, List.getLast?_concat, Option.some.injEq] at h_names
    rw [← h_names] at h_length
    omega

/-! ## Folders that are there -/

/-- To make a folder that is there is to do nothing. -/
theorem makeFolders_of_look (h : t.look p = .ok .folder) :
    t.makeFolders true p = (t, .ok ()) := by
  obtain ⟨s, h_find, h_at⟩ := look_eq_ok_iff.1 h
  have h_make : t.makeFolder p = .error .inTheWay := by
    rw [makeFolder, h_find]
    dsimp only [bind, Except.bind]
    rw [h_at]
    rfl
  have h_ensure : t.ensureFolder true p = .ok t := by
    rw [ensureFolder, h_make, h]
    rfl
  rw [makeFolders, h_ensure]

end Tree

namespace File

variable {t t' : Tree} {path : Path} {payload : Value}

/-- The document of a text that has bytes is what the text is read as. -/
theorem document_ofText {text : String} (h : Text.hasBytes text = true) :
    (Node.ofText text).document = (Json.parse text).mapError LoadError.document := by
  simp only [Node.document, Node.ofText, Text.ofUtf8?_utf8 h]

/-- What is loaded is the document of the file that the path leads to. -/
theorem load_of_look {n : Node} (h : t.look path = .ok n) : load t path = n.document.map some := by
  have h_found : (t.look? path).mapError LoadError.path = .ok (some n) := by
    rw [Tree.look?, h]
    rfl
  rw [load, h_found]
  change (n.document >>= fun v => Except.ok (some v)) = _
  cases n.document with
  | error error => rfl
  | ok v => rfl

/-- A save whose path cannot be used has not saved anything. -/
theorem refusal_ne_saved (error : Path.Error) : refusal error ≠ .ok true := by
  cases error <;> simp [refusal]

/-- A payload that is not written is not saved. -/
theorem unwritten_ne_saved (obstacle : Json.Obstacle) : unwritten obstacle ≠ .ok true := by
  cases obstacle <;> simp [unwritten]

/-- What is written to a file has bytes. -/
theorem hasBytes_of_print {text : String} (h : Json.print writer payload = .ok text) :
    Text.hasBytes text = true :=
  Json.hasBytes_of_encodes rfl h

/-- A document that was put in the place of a file is read there. -/
theorem load_of_replace {temporary : Path}
    (h : replace t path temporary payload = (t', .ok true)) :
    ∃ text, Json.print writer payload = .ok text ∧
      load t' path = ((Json.parse text).mapError LoadError.document).map some := by
  unfold replace at h
  split at h
  · exact absurd (Prod.mk.inj h).2 (refusal_ne_saved _)
  · split at h
    · exact absurd (Prod.mk.inj h).2 (unwritten_ne_saved _)
    · rename_i text h_text
      split at h
      · exact absurd (Prod.mk.inj h).2 (refusal_ne_saved _)
      · rename_i written h_write
        split at h
        · exact absurd (Prod.mk.inj h).2 (refusal_ne_saved _)
        · rename_i moved h_move
          obtain ⟨rfl, -⟩ := Prod.mk.inj h
          have h_look := Tree.look_of_move h_move (Tree.look_of_write h_write)
          refine ⟨text, h_text, ?_⟩
          rw [load_of_look h_look, document_ofText (hasBytes_of_print h_text)]

/-! ## Files that can be written -/

/-- The paths of a document and of its temporary file can be used: the folder is there, and there
is a file, or nothing, where each of the two leads to. -/
structure Ready (t : Tree) (path : Path) : Prop where
  folder : t.look path.parent = .ok .folder
  target : ∃ s, t.LeadsToFile path s
  temporary : ∃ temporary s, path.beside? temporaryEnding = some temporary ∧
    t.LeadsToFile temporary s

theorem Ready.of_sameFolders (h : Ready t path) (h_same : t.SameFolders t') : Ready t' path := by
  obtain ⟨s, h_target⟩ := h.target
  obtain ⟨temporary, s', h_beside, h_temporary⟩ := h.temporary
  obtain ⟨u, h_find, h_at⟩ := Tree.look_eq_ok_iff.1 h.folder
  have h_folder : t'.look path.parent = .ok .folder :=
    Tree.look_eq_ok_iff.2 ⟨u, Tree.find_of_folders h_same.stay h_find, (h_same u).1 h_at⟩
  exact ⟨h_folder, ⟨s, h_target.of_sameFolders h_same⟩, temporary, s', h_beside,
    h_temporary.of_sameFolders h_same⟩

/-- What is loaded depends on what the path leads to. -/
theorem load_congr (h : t'.look path = t.look path) : load t' path = load t path := by
  rw [load, load, Tree.look?, Tree.look?, h]

/-- What a save comes to if its paths can be used. -/
def verdict (payload : Value) : Except Error Bool :=
  match Json.print writer payload with
  | .ok _ => .ok true
  | .error obstacle => unwritten obstacle

/-- **Exactly the documents that are tame are saved.** -/
theorem verdict_eq_saved_iff : verdict payload = .ok true ↔ Savable payload := by
  rw [Savable, ← Json.exists_hasBytes_print_iff (w := writer) rfl, verdict]
  cases h_print : Json.print writer payload with
  | ok text => exact ⟨fun _ => ⟨text, rfl, hasBytes_of_print h_print⟩, fun _ => rfl⟩
  | error obstacle =>
    exact ⟨fun h => absurd h (unwritten_ne_saved obstacle), fun ⟨_, h, _⟩ => nomatch h⟩

/-- Of a payload that is tame it is said whether it is a document. -/
theorem verdict_of_tame (h : payload.Tame) : verdict payload = .ok (Json.isDocument payload) := by
  rcases Json.print_of_tame (w := writer) h rfl with ⟨h_document, text, h_text⟩ | ⟨h_foreign, h_error⟩
  · rw [verdict, h_text, h_document]
  · rw [verdict, h_error, h_foreign]
    rfl

/-- The save of a document that is not tame breaks off. -/
theorem verdict_of_not_tame (h_document : Json.isDocument payload = true) (h : ¬ payload.Tame) :
    ∃ obstacle, verdict payload = .error (@Error.noBytes obstacle) := by
  rw [verdict]
  cases h_print : Json.print writer payload with
  | ok text =>
    have h_text : ∃ text, Json.print writer payload = .ok text ∧ Text.hasBytes text = true :=
      ⟨text, h_print, hasBytes_of_print h_print⟩
    exact absurd ((Json.exists_hasBytes_print_iff rfl).1 h_text).2 h
  | error obstacle =>
    cases obstacle with
    | foreign => exact absurd (Json.isOf_of_print h_print) (Json.isDocument_iff.1 h_document)
    | notFinite | tooLong | noBytes | tooDeep => exact ⟨_, rfl⟩

/-- **What a save does if its paths can be used.**  They can be used afterwards as well; whether the
payload is saved depends on the payload alone, and if it is not, what is loaded is what was loaded
before. -/
theorem save_of_ready (h : Ready t path) (payload : Value) :
    ∃ t', save t path payload = (t', verdict payload) ∧ Ready t' path ∧
      (verdict payload ≠ .ok true → load t' path = load t path) := by
  obtain ⟨s, h_target⟩ := h.target
  obtain ⟨temporary, s', h_beside, h_temporary⟩ := h.temporary
  have h_ne : s ≠ s' := Tree.ne_of_beside (by decide) h_beside h_target.1 h_temporary.1
  have h_save : save t path payload = replace t path temporary payload := by
    rw [save, h_beside]
    dsimp only
    rw [Tree.makeFolders_of_look h.folder]
  rw [h_save, replace, h_temporary.write]
  dsimp only
  have h_opened := Tree.sameFolders_put h_temporary.2 ""
  -- As long as only the temporary file is written, the document stays what it is.
  have h_kept : load (t.put s' (.ofText "")) path = load t path := by
    refine load_congr ?_
    rw [Tree.look_of_find (h_target.of_sameFolders h_opened).1, Tree.look_of_find h_target.1,
      Tree.at?_put_of_ne h_ne]
  rw [verdict]
  cases Json.print writer payload with
  | error obstacle => exact ⟨_, rfl, h.of_sameFolders h_opened, fun _ => h_kept⟩
  | ok text =>
    dsimp only
    rw [h_temporary.write]
    dsimp only
    have h_written := Tree.sameFolders_put h_temporary.2 text
    have h_found := h_temporary.of_sameFolders h_written
    have h_removed := h_written.trans (Tree.sameFolders_remove h_found.2)
    have h_place := h_target.of_sameFolders h_removed
    have h_move : (t.put s' (.ofText text)).move temporary path =
        .ok (((t.put s' (.ofText text)).remove s').put s (.ofText text)) := by
      rw [Tree.move, Tree.look_of_write (h_temporary.write _), h_found.1]
      exact h_place.write _
    rw [h_move]
    exact ⟨_, rfl, h.of_sameFolders (h_removed.trans (Tree.sameFolders_put h_place.2 text)),
      fun h_not => absurd rfl h_not⟩

/-- **What was saved is loaded**, if the document is read as what was written. -/
theorem load_of_save (h : save t path payload = (t', .ok true)) (h_read : ReadsBack writer payload) :
    load t' path = .ok (some payload) := by
  unfold save at h
  split at h
  · cases h
  · split at h
    · exact absurd (Prod.mk.inj h).2 (refusal_ne_saved _)
    · obtain ⟨text, h_text, h_load⟩ := load_of_replace h
      rw [h_load, h_read.parse h_text]
      rfl

end File

end Rulebook.Storage
