import PageLoom.ProjectConfig
import PageLoom.Proofs.FileTree

set_option autoImplicit false

/-! # Loading a configuration

A configuration file is looked up, opened, read as a document, and validated. `Loads` lists what the
steps can come to, whatever reader is used. What is wrong with the file, its document or its values
is told as a fault of the configuration. Three things are not: that the path cannot be looked up,
that the document's reader breaks down, and that a key is no text (`Slips`). -/

namespace PageLoom
namespace ProjectConfig

/-! ## Readers -/

/-- What the values of a document are accepted as, if they are: texts and integers, or nothing. -/
structure Acceptance (α : Type) where
  text : α → Option (Option Text)
  number : α → Option (Option Int)

variable {α β : Type} {r : Reader} {a : Acceptance r.Value} {tree : FileTree} {path name : Text}
  {c : ProjectConfig} {found : Except FileFault Bool} {content : Except FileFault Octets}
  {result : Except Fault ProjectConfig}

/-- What the value of a field is accepted as. A field that is left out holds nothing. -/
def field? (accept : α → Option (Option β)) (name : String) (members : List (Text × α)) :
    Option (Option β) :=
  match member? name.toList members with
  | some v => accept v
  | none => some none

/-- The configuration of a mapping, if all its members are known fields with acceptable values. -/
def Acceptance.config? (a : Acceptance α) (members : List (Text × α)) : Option ProjectConfig :=
  if members.all fun m => fieldNames.contains m.1 then do
    let bundlerDir ← field? a.text "vite_dir" members
    let port ← field? a.number "port" members
    let bundlerUrl ← field? a.text "vite_dev_url" members
    return ⟨bundlerDir, port, bundlerUrl⟩
  else none

/-- A reader that finds nothing in an empty file, each key of a mapping once, and no configuration
    but those of known fields with acceptable values. -/
structure Reader.Lawful (r : Reader) (a : Acceptance r.Value) : Prop where
  blank : r.document [] = .ok .nothing
  distinct : ∀ octets entries members, r.document octets = .ok (.mapping entries) →
    members? entries = some members → (members.map Prod.fst).Nodup
  validates : ∀ members c, (members.map Prod.fst).Nodup →
    (r.validate members = .ok c ↔ a.config? members = some c)

theorem Reader.Lawful.validate_nil (h : r.Lawful a) : r.validate [] = .ok empty :=
  (h.validates [] empty List.nodup_nil).2 rfl

/-- A mapping has members by name unless one of its keys is no text. -/
theorem members?_eq_none_iff {entries : List (Option Text × α)} :
    members? entries = none ↔ ∃ e ∈ entries, e.1 = none := by
  rw [members?]
  induction entries with
  | nil => simp
  | cons e rest ih =>
      obtain ⟨key, v⟩ := e
      cases key with
      | none => simp
      | some k =>
          cases hrest : rest.mapM fun (e : Option Text × α) => e.1.map fun k => (k, e.2) with
          | none => simpa [hrest] using ih.1 hrest
          | some members => simpa [hrest] using mt ih.2 (by simp [hrest])

/-! ## Outcomes -/

/-- What a document comes to. -/
inductive Settled (r : Reader) (a : Acceptance r.Value) (name : Text) :
    Except DocumentFault (Document r.Value) → Except Fault ProjectConfig → Prop
  | faulty (fault : DocumentFault) :
      Settled r a name (.error fault) (.error (.ofDocument name fault))
  | blank : Settled r a name (.ok .nothing) (.ok empty)
  | other : Settled r a name (.ok .other) (.error (.noMapping name))
  | oddKey {entries : List (Option Text × r.Value)} (hodd : ∃ e ∈ entries, e.1 = none) :
      Settled r a name (.ok (.mapping entries)) (.error .oddKey)
  | described {entries : List (Option Text × r.Value)} {members : List (Text × r.Value)}
      {c : ProjectConfig} (hmembers : members? entries = some members)
      (hc : a.config? members = some c) : Settled r a name (.ok (.mapping entries)) (.ok c)
  | unfit {entries : List (Option Text × r.Value)} {members : List (Text × r.Value)}
      {rejection : Rejection} (hmembers : members? entries = some members)
      (hunfit : a.config? members = none) (hrejected : r.validate members = .error rejection) :
      Settled r a name (.ok (.mapping entries)) (.error (.invalid name rejection))

/-- What loading comes to, by whether anything is found at the path, and what can be read there. -/
inductive Loads (r : Reader) (a : Acceptance r.Value) (found : Except FileFault Bool)
    (content : Except FileFault Octets) (name : Text) : Except Fault ProjectConfig → Prop
  | lookup {fault : FileFault} (hfound : found = .error fault) :
      Loads r a found content name (.error (.lookup fault))
  | missing (hfound : found = .ok false) : Loads r a found content name (.ok empty)
  | unreadable {fault : FileFault} (hfound : found = .ok true) (hcontent : content = .error fault) :
      Loads r a found content name (.error (.unreadable name fault.message))
  | file {octets : Octets} {result : Except Fault ProjectConfig} (hfound : found = .ok true)
      (hcontent : content = .ok octets) (h : Settled r a name (r.document octets) result) :
      Loads r a found content name result

theorem Reader.Lawful.settled (h : r.Lawful a) (name : Text) (octets : Octets) :
    Settled r a name (r.document octets)
      ((r.document octets).mapError (.ofDocument name) >>= ofDocument r name) := by
  cases hdocument : r.document octets with
  | error fault => exact .faulty fault
  | ok document =>
      change Settled r a name (.ok document) (ofDocument r name document)
      cases document with
      | nothing =>
          rw [ofDocument, h.validate_nil]
          exact .blank
      | other => exact .other
      | mapping entries =>
          rw [ofDocument]
          cases hmembers : members? entries with
          | none => exact .oddKey (members?_eq_none_iff.1 hmembers)
          | some members =>
              change Settled r a name _ ((r.validate members).mapError (.invalid name))
              have hvalidates := (h.validates members · (h.distinct octets entries members hdocument
                hmembers))
              cases hresult : r.validate members with
              | ok c => exact .described hmembers ((hvalidates c).1 hresult)
              | error rejection =>
                  refine .unfit hmembers ?_ hresult
                  cases hc : a.config? members with
                  | none => rfl
                  | some c => cases hresult.symm.trans ((hvalidates c).2 hc)

theorem Reader.Lawful.loads (h : r.Lawful a) (tree : FileTree) (path : Text) :
    Loads r a (tree.exists? path) (tree.read path) (SitePath.name path) (load r tree path) := by
  rw [load]
  cases hfound : tree.exists? path with
  | error fault => exact .lookup rfl
  | ok there =>
      cases there with
      | false => exact .missing rfl
      | true =>
          cases hcontent : tree.read path with
          | error fault => exact .unreadable rfl rfl
          | ok octets => exact .file rfl rfl (h.settled (SitePath.name path) octets)

/-- What is read is there. -/
theorem exists?_of_read {octets : Octets} (h : tree.read path = .ok octets) :
    tree.exists? path = .ok true := by
  rw [FileTree.exists?, FileTree.find_of_read h]
  rfl

/-! ## Configurations -/

/-- What a file's octets give: the empty configuration for a document that says nothing, and the
    configuration of a mapping whose keys are all texts. -/
def Gives (r : Reader) (a : Acceptance r.Value) (octets : Octets) (c : ProjectConfig) : Prop :=
  (r.document octets = .ok .nothing ∧ c = empty) ∨
    ∃ entries members, r.document octets = .ok (.mapping entries) ∧
      members? entries = some members ∧ a.config? members = some c

theorem Settled.gives {octets : Octets} (h : Settled r a name (r.document octets) (.ok c)) :
    Gives r a octets c := by
  generalize hdocument : r.document octets = document at h
  cases h with
  | blank => exact .inl ⟨hdocument, rfl⟩
  | described hmembers hc => exact .inr ⟨_, _, hdocument, hmembers, hc⟩

theorem Settled.eq_of_gives {octets : Octets} (h : Settled r a name (r.document octets) result)
    (hgives : Gives r a octets c) : result = .ok c := by
  rcases hgives with ⟨hdocument, rfl⟩ | ⟨entries, members, hdocument, hmembers, hc⟩
  · rw [hdocument] at h
    cases h with
    | blank => rfl
  · rw [hdocument] at h
    cases h with
    | oddKey hodd => cases hmembers.symm.trans (members?_eq_none_iff.2 hodd)
    | described hmembers' hc' =>
        obtain rfl := Option.some.inj (hmembers.symm.trans hmembers')
        rw [Option.some.inj (hc'.symm.trans hc)]
    | unfit hmembers' hunfit =>
        obtain rfl := Option.some.inj (hmembers.symm.trans hmembers')
        cases hunfit.symm.trans hc

theorem Reader.Lawful.load_eq_ok_iff (h : r.Lawful a) :
    load r tree path = .ok c ↔
      (tree.exists? path = .ok false ∧ c = empty) ∨
        ∃ octets, tree.read path = .ok octets ∧ Gives r a octets c := by
  have hloads := h.loads tree path
  constructor
  · intro hload
    rw [hload] at hloads
    cases hloads with
    | missing hfound => exact .inl ⟨hfound, rfl⟩
    | file _ hcontent hsettled => exact .inr ⟨_, hcontent, hsettled.gives⟩
  · rintro (⟨hfound, rfl⟩ | ⟨octets, hcontent, hgives⟩)
    · rw [load, hfound]
      rfl
    · generalize load r tree path = result at hloads
      cases hloads with
      | lookup hfound => cases hfound.symm.trans (exists?_of_read hcontent)
      | missing hfound => cases hfound.symm.trans (exists?_of_read hcontent)
      | unreadable _ hfault => cases hfault.symm.trans hcontent
      | file _ hcontent' hsettled =>
          obtain rfl := Except.ok.inj (hcontent.symm.trans hcontent')
          exact hsettled.eq_of_gives hgives

/-! ## Faults -/

/-- Where loading fails in a way that is none of the configuration's. -/
inductive Slips (r : Reader) (found : Except FileFault Bool) (content : Except FileFault Octets) :
    Prop
  | lookup {fault : FileFault} (hfound : found = .error fault)
  | escaped {octets : Octets} {kind report : Text} (hcontent : content = .ok octets)
      (hdocument : r.document octets = .error (.escaped kind report))
  | oddKey {octets : Octets} {entries : List (Option Text × r.Value)}
      (hcontent : content = .ok octets) (hdocument : r.document octets = .ok (.mapping entries))
      (hodd : ∃ e ∈ entries, e.1 = none)

/-- The documents that make loading fail so. -/
def Foreign (document : Except DocumentFault (Document α)) : Prop :=
  (∃ kind report, document = .error (.escaped kind report)) ∨
    ∃ entries, document = .ok (.mapping entries) ∧ ∃ e ∈ entries, e.1 = none

theorem slips_iff_foreign {octets : Octets} (hfound : found = .ok true)
    (hcontent : content = .ok octets) : Slips r found content ↔ Foreign (r.document octets) := by
  subst hfound hcontent
  constructor
  · rintro (⟨⟨⟩⟩ | ⟨⟨⟩, hdocument⟩ | ⟨⟨⟩, hdocument, hodd⟩)
    · exact .inl ⟨_, _, hdocument⟩
    · exact .inr ⟨_, hdocument, hodd⟩
  · rintro (⟨kind, report, hdocument⟩ | ⟨entries, hdocument, hodd⟩)
    · exact .escaped rfl hdocument
    · exact .oddKey rfl hdocument hodd

theorem Settled.isOwn_iff {document : Except DocumentFault (Document r.Value)}
    (h : Settled r a name document result) :
    (∀ fault, result = .error fault → fault.isOwn = true) ↔ ¬ Foreign document := by
  cases h with
  | faulty fault =>
      cases fault with
      | malformed report => simp [Foreign, Fault.ofDocument, Fault.isOwn]
      | unreadable report => simp [Foreign, Fault.ofDocument, Fault.isOwn]
      | escaped kind report => simp [Foreign, Fault.ofDocument, Fault.isOwn]
  | blank => simp [Foreign]
  | other => simp [Foreign, Fault.isOwn]
  | oddKey hodd => simpa [Foreign, Fault.isOwn] using hodd
  | described hmembers =>
      simpa [Foreign] using mt members?_eq_none_iff.2 (by simp [hmembers])
  | unfit hmembers =>
      simpa [Foreign, Fault.isOwn] using mt members?_eq_none_iff.2 (by simp [hmembers])

theorem Loads.isOwn_iff (h : Loads r a found content name result)
    (hthere : ∀ octets, content = .ok octets → found = .ok true) :
    (∀ fault, result = .error fault → fault.isOwn = true) ↔ ¬ Slips r found content := by
  have hfound : Slips r found content → found = .ok true ∨ ∃ fault, found = .error fault := by
    rintro (hfound | ⟨hcontent, -⟩ | ⟨hcontent, -⟩)
    · exact .inr ⟨_, hfound⟩
    · exact .inl (hthere _ hcontent)
    · exact .inl (hthere _ hcontent)
  cases h with
  | lookup hfault =>
      refine iff_of_false (fun h => ?_) (not_not_intro (.lookup hfault))
      cases h _ rfl
  | missing habsent =>
      refine iff_of_true nofun fun hslips => ?_
      rcases hfound hslips with h | ⟨fault, h⟩ <;> cases habsent.symm.trans h
  | unreadable hthere' hfault =>
      refine iff_of_true (fun fault heq => ?_) ?_
      · cases heq
        rfl
      · rintro (h | ⟨h, -⟩ | ⟨h, -⟩)
        · cases hthere'.symm.trans h
        · cases hfault.symm.trans h
        · cases hfault.symm.trans h
  | file hthere' hcontent hsettled =>
      rw [hsettled.isOwn_iff, slips_iff_foreign hthere' hcontent]

/-! ## Whole files -/

/-- How a configuration file is loaded. -/
structure Settles (r : Reader) (a : Acceptance r.Value) (tree : FileTree) (path : Text) : Prop where
  /-- A path where nothing stands gives the empty configuration, and so does a file that says
      nothing. Any other configuration is that of a mapping of known fields with acceptable
      values. -/
  loads : ∀ c, load r tree path = .ok c ↔
    (tree.exists? path = .ok false ∧ c = empty) ∨
      ∃ octets, tree.read path = .ok octets ∧ Gives r a octets c
  blank : tree.read path = .ok [] → load r tree path = .ok empty
  /-- What else there is, by the step that fails. -/
  course : Loads r a (tree.exists? path) (tree.read path) (SitePath.name path) (load r tree path)
  /-- Every fault is one of the configuration's, unless the file slips. -/
  reports : (∀ fault, load r tree path = .error fault → fault.isOwn = true) ↔
    ¬ Slips r (tree.exists? path) (tree.read path)

/-- **A configuration is loaded or a fault of it is reported**, but for the files that slip. -/
theorem settles {r : Reader} {a : Acceptance r.Value} (h : r.Lawful a) (tree : FileTree)
    (path : Text) : Settles r a tree path where
  loads _ := h.load_eq_ok_iff
  blank := by
    intro hread
    exact h.load_eq_ok_iff.2 (.inr ⟨[], hread, .inl ⟨h.blank, rfl⟩⟩)
  course := h.loads tree path
  reports := (h.loads tree path).isOwn_iff fun _ => exists?_of_read

/-- Integers and texts stand for themselves. -/
def plainAcceptance : Acceptance (Int ⊕ Text) where
  text
    | .inl _ => none
    | .inr t => some (some t)
  number
    | .inl n => some (some n)
    | .inr _ => none

/-- A reader that knows a few files. -/
def plainReader : Reader where
  Value := Int ⊕ Text
  document octets :=
    if octets = [] then .ok .nothing
    else if octets = Utf8.encode "port: 3000" then .ok (.mapping [(some "port", .inl 3000)])
    else if octets = Utf8.encode "1: x" then .ok (.mapping [(none, .inr "x")])
    else if octets = [0xFF] then
      .error (.escaped "UnicodeDecodeError" (Utf8.Fault.message ⟨0, 0xFF, 1, .invalidStart⟩))
    else .error (.malformed "while scanning")
  validate members :=
    match plainAcceptance.config? members with
    | some c => .ok c
    | none => .error ⟨[], "validation error"⟩

theorem lawful_plainReader : plainReader.Lawful plainAcceptance where
  blank := rfl
  distinct := by
    intro octets entries members hdocument hmembers
    simp only [plainReader] at hdocument
    split_ifs at hdocument
    · cases hdocument
    · cases hdocument
      cases hmembers
      exact List.nodup_singleton _
    · cases hdocument
      cases hmembers
  validates := by
    intro members c _
    simp only [plainReader]
    cases plainAcceptance.config? members with
    | none => exact ⟨nofun, nofun⟩
    | some c' => simp

/-- A project with a configuration file of the given octets. -/
def configured (octets : Octets) : FileTree where
  nodes := [([fileName], .file octets)]
  cwd := []

/-- A file that names a port gives that port, and leaves out the rest. -/
theorem settles_port :
    plainReader.Lawful plainAcceptance ∧
      Settles plainReader plainAcceptance (configured (Utf8.encode "port: 3000")) fileName ∧
        load plainReader (configured (Utf8.encode "port: 3000")) fileName =
          .ok ⟨none, some 3000, none⟩ :=
  ⟨lawful_plainReader, settles lawful_plainReader _ _, by decide +kernel⟩

/-- **Not every fault is reported**: a key that is no text, an octet that begins no character and a
    name that is too long lead to faults that are none of the configuration's. -/
theorem load_slips :
    (∃ fault, load plainReader (configured (Utf8.encode "1: x")) fileName = .error fault ∧
      fault.isOwn = false) ∧
    (∃ fault, load plainReader (configured [0xFF]) fileName = .error fault ∧
      fault.isOwn = false) ∧
    ∃ fault, load plainReader (configured []) (List.replicate 256 'a') = .error fault ∧
      fault.isOwn = false := by
  have hkey : load plainReader (configured (Utf8.encode "1: x")) fileName = .error .oddKey := by
    decide +kernel
  have hoctets : load plainReader (configured [0xFF]) fileName =
      .error (.escaped "UnicodeDecodeError"
        (Utf8.Fault.message ⟨0, 0xFF, 1, .invalidStart⟩)) := by decide +kernel
  have hname : load plainReader (configured []) (List.replicate 256 'a') =
      .error (.lookup (.nameTooLong (List.replicate 256 'a'))) := by decide +kernel
  exact ⟨⟨_, hkey, rfl⟩, ⟨_, hoctets, rfl⟩, ⟨_, hname, rfl⟩⟩

end ProjectConfig
end PageLoom
