import PageLoom.Manifest
import PageLoom.Proofs.FileTree
import PageLoom.Proofs.Text.Decoding

set_option autoImplicit false

/-! # Doing without a manifest

Where no manifest can be had, a page is built as if it were empty. `Course` lists all that reading
an output directory's manifest can come to, by what stands at the manifest's path and what the
reader says of it: a manifest, no file, or a text that is none. These are all answered. What is left
is a file of octets that are no text, and a path that is none: such a fault is neither among those
of the manifest nor replaced by an empty mapping (`answers_iff`). -/

namespace PageLoom
namespace Manifest

variable {reader : Reader} {tree : FileTree} {dist : Text} {m : Manifest} {octets : Octets}

/-- The octets that write a manifest: those of a text from which it is read, however its lines
    end. -/
def Writes (reader : Reader) (m : Manifest) (octets : Octets) : Prop :=
  ∃ t, octets = Utf8.encode t ∧ reader (Text.unifyLineEnds t) = .ok m

theorem writes_encode_iff {t : Text} :
    Writes reader m (Utf8.encode t) ↔ reader (Text.unifyLineEnds t) = .ok m := by
  constructor
  · rintro ⟨t', ht, hm⟩
    rwa [Utf8.encode_injective ht]
  · intro hm
    exact ⟨t, rfl, hm⟩

/-- What reading and loading come to, by what stands at the manifest's path. -/
inductive Course (reader : Reader) (content : Except FileFault Octets) :
    Except ManifestFault Manifest → Except ManifestFault (List (Text × Text) × Entry) → Prop
  | loaded {octets : Octets} {m : Manifest} (hcontent : content = .ok octets)
      (hwrites : Writes reader m octets) :
      Course reader content (.ok m) (.ok (flatten m, loadedNote (flatten m)))
  | missing {fault : FileFault} (hcontent : content = .error fault)
      (hnamed : ∀ path, fault ≠ .nullCharacter path) :
      Course reader content (.error (.unreadable fault)) (.ok ([], missedNote (.unreadable fault)))
  | unfit {t : Text} {r : Rejection} (hcontent : content = .ok (Utf8.encode t))
      (hunfit : reader (Text.unifyLineEnds t) = .error r) :
      Course reader content (.error (.invalid r)) (.ok ([], missedNote (.invalid r)))
  | undecodable {octets : Octets} {fault : Utf8.Fault} (hcontent : content = .ok octets)
      (hundecodable : ∀ t, octets ≠ Utf8.encode t) :
      Course reader content (.error (.undecodable fault)) (.error (.undecodable fault))
  | unnamable {path : Text} (hcontent : content = .error (.nullCharacter path)) :
      Course reader content (.error (.unnamable (.nullCharacter path)))
        (.error (.unnamable (.nullCharacter path)))

theorem course (reader : Reader) (tree : FileTree) (dist : Text) :
    Course reader (tree.read (pathIn dist)) (read reader tree dist) (load reader tree dist) := by
  unfold load read
  cases hcontent : tree.read (pathIn dist) with
  | error fault =>
      cases fault with
      | nullCharacter path => exact .unnamable rfl
      | _ => exact .missing rfl nofun
  | ok octets =>
      cases ht : Utf8.decode octets with
      | error fault =>
          simp only [Except.mapError, bind, Except.bind, ht]
          refine .undecodable rfl fun t heq => ?_
          rw [Utf8.decode_eq_ok_iff.2 heq] at ht
          cases ht
      | ok t =>
          obtain rfl := Utf8.decode_eq_ok_iff.1 ht
          simp only [Except.mapError, bind, Except.bind, ht]
          cases hm : reader (Text.unifyLineEnds t) with
          | error r => exact .unfit rfl hm
          | ok m => exact .loaded rfl (writes_encode_iff.2 hm)

section Course

variable {content : Except FileFault Octets} {r : Except ManifestFault Manifest}
  {l : Except ManifestFault (List (Text × Text) × Entry)}

theorem Course.of_ok (h : Course reader content (.ok m) l) :
    ∃ octets, content = .ok octets ∧ Writes reader m octets ∧
      l = .ok (flatten m, loadedNote (flatten m)) := by
  cases h with
  | loaded hcontent hwrites => exact ⟨_, hcontent, hwrites, rfl⟩

theorem Course.of_error {fault : ManifestFault} {mapping : List (Text × Text)} {note : Entry}
    (h : Course reader content (.error fault) (.ok (mapping, note))) :
    mapping = [] ∧ note = missedNote fault := by
  cases h with
  | missing => exact ⟨rfl, rfl⟩
  | unfit => exact ⟨rfl, rfl⟩

/-- The path is one, and a file that stands there holds a text. -/
structure Answerable (content : Except FileFault Octets) : Prop where
  named : ∀ path, content ≠ .error (.nullCharacter path)
  decodable : ∀ octets, content = .ok octets → ∃ t, octets = Utf8.encode t

theorem answerable_ok_encode (t : Text) : Answerable (.ok (Utf8.encode t)) where
  named := nofun
  decodable := by
    rintro octets ⟨⟩
    exact ⟨t, rfl⟩

theorem Writes.decodable (h : Writes reader m octets) : ∃ t, octets = Utf8.encode t := by
  obtain ⟨t, ht, -⟩ := h
  exact ⟨t, ht⟩

/-- Loading answers just where that is so, and there reading has no faults but the manifest's. -/
theorem Course.answerable_iff (h : Course reader content r l) :
    ((∃ mapping note, l = .ok (mapping, note)) ↔ Answerable content) ∧
      ((∀ fault, r = .error fault → fault.isOwn = true) ↔ Answerable content) := by
  have hanswered : Answerable content → (∃ mapping note, l = .ok (mapping, note)) →
      (∀ fault, r = .error fault → fault.isOwn = true) →
      ((∃ mapping note, l = .ok (mapping, note)) ↔ Answerable content) ∧
        ((∀ fault, r = .error fault → fault.isOwn = true) ↔ Answerable content) :=
    fun hcontent hl hr => ⟨iff_of_true hl hcontent, iff_of_true hr hcontent⟩
  have hescaped : ∀ fault : ManifestFault, ¬ Answerable content → l = .error fault →
      r = .error fault → fault.isOwn = false →
      ((∃ mapping note, l = .ok (mapping, note)) ↔ Answerable content) ∧
        ((∀ fault, r = .error fault → fault.isOwn = true) ↔ Answerable content) := by
    rintro fault hcontent rfl rfl hforeign
    refine ⟨iff_of_false ?_ hcontent, iff_of_false (fun hown => ?_) hcontent⟩
    · rintro ⟨mapping, note, ⟨⟩⟩
    · exact absurd (hforeign.symm.trans (hown fault rfl)) nofun
  cases h with
  | loaded hcontent hwrites =>
      obtain ⟨t, rfl⟩ := hwrites.decodable
      exact hanswered (hcontent ▸ answerable_ok_encode t) ⟨_, _, rfl⟩ nofun
  | missing hcontent hnamed =>
      refine hanswered ⟨fun path heq => ?_, fun octets heq => ?_⟩ ⟨_, _, rfl⟩ ?_
      · exact hnamed path (Except.error.inj (hcontent.symm.trans heq))
      · cases hcontent.symm.trans heq
      · rintro fault ⟨⟩
        rfl
  | unfit hcontent hunfit =>
      refine hanswered (hcontent ▸ answerable_ok_encode _) ⟨_, _, rfl⟩ ?_
      rintro fault ⟨⟩
      rfl
  | undecodable hcontent hundecodable =>
      refine hescaped _ (fun h => ?_) rfl rfl rfl
      obtain ⟨t, ht⟩ := h.decodable _ hcontent
      exact hundecodable t ht
  | unnamable hcontent => exact hescaped _ (fun h => h.named _ hcontent) rfl rfl rfl

end Course

theorem answers_iff :
    (∃ mapping note, load reader tree dist = .ok (mapping, note)) ↔
      Answerable (tree.read (pathIn dist)) :=
  (course reader tree dist).answerable_iff.1

/-- What is read is what the file writes. -/
theorem read_eq_ok_iff :
    read reader tree dist = .ok m ↔
      ∃ octets, tree.read (pathIn dist) = .ok octets ∧ Writes reader m octets := by
  constructor
  · intro hread
    have h := course reader tree dist
    rw [hread] at h
    obtain ⟨octets, hoctets, hwrites, -⟩ := h.of_ok
    exact ⟨octets, hoctets, hwrites⟩
  · rintro ⟨octets, hoctets, hwrites⟩
    obtain ⟨t, rfl⟩ := hwrites.decodable
    have ht : Utf8.decode (Utf8.encode t) = .ok t := Utf8.decode_eq_ok_iff.2 rfl
    simp only [read, hoctets, Except.mapError, bind, Except.bind, ht,
      writes_encode_iff.1 hwrites]

/-- A warning is shown from the first verbosity on. -/
theorem shownEntries_missedNote (verbosity : Int) (fault : ManifestFault) :
    shownEntries verbosity [missedNote fault] =
      if 1 ≤ verbosity then [missedNote fault] else [] := by
  by_cases h : 1 ≤ verbosity <;> simp [shownEntries, Entry.shownAt, missedNote, Entry.warning, h]

/-- How an output directory's manifest is done without. -/
structure Degrades (reader : Reader) (tree : FileTree) (dist : Text) : Prop where
  /-- A manifest is read if the file writes it. -/
  reads : ∀ m, read reader tree dist = .ok m ↔
    ∃ octets, tree.read (pathIn dist) = .ok octets ∧ Writes reader m octets
  /-- What else there is: no file, a text that is no manifest, a file that is no text, and a path
      that is none. -/
  course : Course reader (tree.read (pathIn dist)) (read reader tree dist) (load reader tree dist)
  /-- A mapping is returned unless the file is there and is no text. -/
  answers : (∃ mapping note, load reader tree dist = .ok (mapping, note)) ↔
    Answerable (tree.read (pathIn dist))
  /-- So long, reading has no faults but the manifest's own. -/
  reports : (∀ fault, read reader tree dist = .error fault → fault.isOwn = true) ↔
    Answerable (tree.read (pathIn dist))
  /-- The path is one unless it holds a null character. -/
  named : (∃ path, tree.read (pathIn dist) = .error (.nullCharacter path)) ↔
    (SitePath.tidy (pathIn dist)).contains '\u0000' = true
  /-- A manifest that is read is returned flat, with no warning. -/
  keeps : ∀ m, read reader tree dist = .ok m →
    ∃ note, load reader tree dist = .ok (flatten m, note) ∧ note.severity ≠ .warning
  /-- Without one, whatever is returned is empty, with a warning that the first verbosity shows. -/
  warns : (∀ m, read reader tree dist ≠ .ok m) →
    ∀ mapping note, load reader tree dist = .ok (mapping, note) →
      mapping = [] ∧ note.severity = .warning ∧
        ∀ verbosity, shownEntries verbosity [note] = if 1 ≤ verbosity then [note] else []

/-- **A missing or malformed manifest counts as empty**, in every output directory and whatever the
    reader takes for a manifest. A file that is no text does not. -/
theorem degrades (reader : Reader) (tree : FileTree) (dist : Text) : Degrades reader tree dist where
  reads _ := read_eq_ok_iff
  course := course reader tree dist
  answers := answers_iff
  reports := (Manifest.course reader tree dist).answerable_iff.2
  named := FileTree.read_eq_nullCharacter_iff
  keeps := by
    intro m hm
    have h := Manifest.course reader tree dist
    rw [hm] at h
    obtain ⟨octets, -, -, hload⟩ := h.of_ok
    exact ⟨_, hload, nofun⟩
  warns := by
    intro hnone mapping note hload
    have h := Manifest.course reader tree dist
    cases hread : read reader tree dist with
    | ok m => exact absurd hread (hnone m)
    | error fault =>
        rw [hread, hload] at h
        obtain ⟨rfl, rfl⟩ := h.of_error
        exact ⟨rfl, rfl, fun verbosity => shownEntries_missedNote verbosity fault⟩

/-- An output directory whose manifest is one octet that begins no character. -/
def tornOutput : FileTree where
  nodes := [(["dist"], .directory), (["dist", ".vite"], .directory),
    (["dist", ".vite", "manifest.json"], .file [0xFF])]
  cwd := []

/-- **Not every file is done without**: whatever the reader, nothing is returned for a manifest that
    is no text, and the fault is none of the manifest's own. -/
theorem load_tornOutput :
    tornOutput.read (pathIn "dist") = .ok [0xFF] ∧
      ∀ reader, ∃ fault, read reader tornOutput "dist" = .error fault ∧ fault.isOwn = false ∧
        load reader tornOutput "dist" = .error fault := by
  have hread : tornOutput.read (pathIn "dist") = .ok [0xFF] := by decide +kernel
  have hdecode : Utf8.decode [0xFF] = .error ⟨0, 0xFF, 1, .invalidStart⟩ := by
    rw [Utf8.decode, Utf8.decodeFrom]
    rfl
  refine ⟨hread, fun reader => ⟨.undecodable ⟨0, 0xFF, 1, .invalidStart⟩, ?_⟩⟩
  have hfault : read reader tornOutput "dist" =
      .error (.undecodable ⟨0, 0xFF, 1, .invalidStart⟩) := by
    simp only [read, hread, Except.mapError, bind, Except.bind, hdecode]
  refine ⟨hfault, rfl, ?_⟩
  rw [load, hfault]
  rfl

end Manifest
end PageLoom
