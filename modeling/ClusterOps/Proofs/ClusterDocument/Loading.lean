import ClusterOps.ClusterDocument.File
import ClusterOps.Proofs.ClusterDocument.Sound
import ClusterOps.Proofs.Yaml.Defects

/-
What comes out of loading a document, whatever it is loaded through. A document that comes
out is sound, something too large gives a complaint, and so does every failure that a step
tells in the way expected of it. What a step raises otherwise is caught nowhere, and this is
all that escapes (`load_contract`). Through a tree of files only three kinds of failure
escape: bytes that are no text, a scalar of the text that has no value, and a kind that
cannot be encoded (`load_kinds`).
-/

namespace ClusterOps.ClusterDocument

variable {r : Reader} {path shown : String} {text : List Char} {c : Cause}

/-! ## What escapes -/

/-- Something of this size is at the path. -/
def Reader.Sizes (r : Reader) (path : String) (size : Nat) : Prop :=
  r.isThere path = .ok true ∧ r.size path = .ok size

/-- Something is at the path that is not too large and has this text. -/
def Reader.Opens (r : Reader) (path : String) (text : List Char) : Prop :=
  ∃ size ≤ maxBytes, r.Sizes path size ∧ r.text path = .ok text

/-- What a text raises that is caught nowhere: when its data are read, or when a kind with halves is
complained about. -/
inductive Slips (data : List Char → Except Yaml.Defect Value) (text : List Char) : Cause → Prop
  | valueless {kind why : String} : data text = .error (.valueless kind why) →
      Slips data text (.other kind why)
  | unencoded {entries : List (Value × Value)} {key : String} {h : Text.Halves} :
      data text = .ok (.map entries) → field? entries ["kind"] = some (key, .halves h) →
      Slips data text (.other "UnicodeEncodeError" (h.unencodable kindComplaint.length))

/-- What is raised on the way to a document and caught nowhere. -/
inductive Escapes (r : Reader) (path : String) : Cause → Prop
  | unseen {c : Cause} : r.isThere path = .error c → Escapes r path c
  | unsized {c : Cause} : r.isThere path = .ok true → r.size path = .error (.other c) →
      Escapes r path c
  | unread {size : Nat} {c : Cause} : r.Sizes path size → size ≤ maxBytes →
      r.text path = .error (.other c) → Escapes r path c
  | slips {text : List Char} {c : Cause} : r.Opens path text → Slips r.data text c →
      Escapes r path c

/-! ## Texts -/

/-- What a text gives: a sound document, a complaint, or what slips through. -/
theorem ofText_cases (data : List Char → Except Yaml.Defect Value) (shown : String)
    (text : List Char) :
    (∃ d, ofText data shown text = .ok d ∧ d.Sound) ∨
      (∃ why, ofText data shown text = .error (.document why)) ∨
      ∃ c, ofText data shown text = .error c ∧ Slips data text c := by
  unfold ofText
  split
  case h_1 d refused =>
    cases d with
    | malformed => exact .inr (.inl ⟨_, rfl⟩)
    | valueless kind why => exact .inr (.inr ⟨_, rfl, .valueless refused⟩)
  case h_2 entries read =>
    unfold validate
    split
    case h_1 key h given => exact .inr (.inr ⟨_, rfl, .unencoded read given⟩)
    case h_2 =>
      cases made : ofEntries entries with
      | ok d => exact .inl ⟨d, rfl, sound_of_ofEntries made⟩
      | error issues => exact .inr (.inl ⟨_, rfl⟩)
  case h_3 => exact .inr (.inl ⟨_, rfl⟩)

theorem ofText_of_slips {data : List Char → Except Yaml.Defect Value} (h : Slips data text c)
    (shown : String) : ofText data shown text = .error c := by
  unfold ofText
  cases h with
  | valueless refused =>
    rw [refused]
    rfl
  | unencoded read given =>
    rw [read]
    simp only [validate, given]
    rfl

/-! ## Paths -/

/-- What a path gives: a sound document, a complaint, or what escapes. -/
theorem loadBy_cases (r : Reader) (path : String) :
    (∃ d, loadBy r path = .ok d ∧ d.Sound) ∨ (∃ why, loadBy r path = .error (.document why)) ∨
      ∃ c, loadBy r path = .error c ∧ Escapes r path c := by
  unfold loadBy
  dsimp only
  split
  case h_1 c raised => exact .inr (.inr ⟨c, rfl, .unseen raised⟩)
  case h_2 => exact .inr (.inl ⟨_, rfl⟩)
  case h_3 there =>
    split
    case h_1 e failed =>
      cases e with
      | told why => exact .inr (.inl ⟨_, rfl⟩)
      | other c => exact .inr (.inr ⟨c, rfl, .unsized there failed⟩)
    case h_2 size sized =>
      split
      case isTrue => exact .inr (.inl ⟨_, rfl⟩)
      case isFalse small =>
        have small : size ≤ maxBytes := by omega
        split
        case h_1 e failed =>
          cases e with
          | told why => exact .inr (.inl ⟨_, rfl⟩)
          | other c => exact .inr (.inr ⟨c, rfl, .unread ⟨there, sized⟩ small failed⟩)
        case h_2 text read =>
          have opens : r.Opens path text := ⟨size, small, ⟨there, sized⟩, read⟩
          exact (ofText_cases r.data _ text).imp_right
            (Or.imp_right fun ⟨c, raised, slips⟩ => ⟨c, raised, .slips opens slips⟩)

theorem loadBy_of_sizes {size : Nat} (h : r.Sizes path size) (large : maxBytes < size) :
    ∃ why, loadBy r path = .error (.document why) := by
  unfold loadBy
  rw [h.1, h.2]
  dsimp only
  rw [if_pos large]
  exact ⟨_, rfl⟩

theorem loadBy_of_opens (h : r.Opens path text) :
    loadBy r path = ofText r.data (Files.plainPath path) text := by
  obtain ⟨size, small, ⟨there, sized⟩, read⟩ := h
  unfold loadBy
  rw [there, sized, read]
  dsimp only
  rw [if_neg (by omega)]

theorem loadBy_of_escapes (h : Escapes r path c) : loadBy r path = .error c := by
  cases h with
  | unseen raised =>
    unfold loadBy
    rw [raised]
  | unsized there failed =>
    unfold loadBy
    rw [there, failed]
    rfl
  | unread sizes small failed =>
    unfold loadBy
    rw [sizes.1, sizes.2, failed]
    dsimp only
    rw [if_neg (by omega)]
    rfl
  | slips opens slips => rw [loadBy_of_opens opens, ofText_of_slips slips]

/-- Whatever a document is loaded through and from wherever: what comes out is a sound document, a
complaint, or something that is caught nowhere on the way; something too large always gives a
complaint; and all that is caught nowhere comes out as it is. -/
theorem load_contract (r : Reader) (path : String) :
    ((∃ d, loadBy r path = .ok d ∧ d.Sound) ∨
      (∃ why, loadBy r path = .error (.document why)) ∨
      ∃ c, loadBy r path = .error c ∧ Escapes r path c) ∧
    (∀ size, r.Sizes path size → maxBytes < size →
      ∃ why, loadBy r path = .error (.document why)) ∧
    ∀ c, Escapes r path c → loadBy r path = .error c :=
  ⟨loadBy_cases r path, fun _ => loadBy_of_sizes, fun _ => loadBy_of_escapes⟩

/-! ## Files -/

/-- The word for the kind of a complaint that names the file. -/
def complaintKind : String := "SpecLoadError"

/-- A document that is loaded from a tree of files is sound. -/
theorem sound_of_load {files : Files} {path : String} {d : ClusterDocument}
    (loaded : load files path = .ok d) : d.Sound := by
  obtain ⟨d', made, sound⟩ | ⟨why, complaint⟩ | ⟨c, raised, -⟩ := loadBy_cases (.ofFiles files) path
  · cases made.symm.trans loaded
    exact sound
  · cases complaint.symm.trans loaded
  · cases raised.symm.trans loaded

/-- What escapes from a tree of files are bytes that are no text, scalars without a value and kinds
that cannot be encoded. -/
theorem kind_of_escapes {files : Files} (h : Escapes (.ofFiles files) path c) :
    c.kind ∈ "UnicodeDecodeError" :: "UnicodeEncodeError" :: Yaml.readKinds := by
  cases h with
  | unseen raised => cases raised
  | unsized there failed =>
    simp only [Reader.ofFiles] at failed
    split at failed <;> cases failed
  | unread _ _ failed =>
    simp only [Reader.ofFiles] at failed
    split at failed
    case h_1 =>
      split at failed
      · cases failed
      · cases failed
        exact List.mem_cons_self
    case h_2 | h_3 => cases failed
  | slips _ slips =>
    cases slips with
    | valueless refused =>
      exact List.mem_cons_of_mem _ (List.mem_cons_of_mem _ (Yaml.read_reports _ _ refused))
    | unencoded => exact List.mem_cons_of_mem _ List.mem_cons_self

/-- The kinds of failure that come out of loading from a tree of files. -/
theorem load_kinds (files : Files) (path : String) :
    Fails (fun c => c.kind ∈ complaintKind :: "UnicodeDecodeError" :: "UnicodeEncodeError" ::
      Yaml.readKinds) (load files path) := by
  intro c failed
  obtain ⟨d, made, -⟩ | ⟨why, complaint⟩ | ⟨c', raised, escapes⟩ :=
    loadBy_cases (.ofFiles files) path
  · cases made.symm.trans failed
  · cases complaint.symm.trans failed
    exact List.mem_cons_self
  · cases raised.symm.trans failed
    exact List.mem_cons_of_mem _ (kind_of_escapes escapes)

/-- A file of one byte that begins no character breaks the contract that whatever is raised is a
complaint. -/
theorem load_undecoded_raises :
    ¬ ∀ (files : Files) (path : String),
      (∃ d, load files path = .ok d ∧ d.Sound) ∨
        ∃ c, load files path = .error c ∧ c.kind = complaintKind := by
  intro contract
  have raised : load [("c.yaml", .file [0xFF])] "c.yaml"
      = .error (.other "UnicodeDecodeError" "the file is not UTF-8") :=
    loadBy_of_escapes (.unread ⟨rfl, rfl⟩ (by decide) rfl)
  have other : (Cause.other "UnicodeDecodeError" "the file is not UTF-8").kind ≠ complaintKind := by
    decide
  obtain ⟨d, loaded, -⟩ | ⟨c, complaint, kind⟩ := contract [("c.yaml", .file [0xFF])] "c.yaml"
  · cases raised.symm.trans loaded
  · rw [← Except.error.inj (raised.symm.trans complaint)] at kind
    exact other kind

end ClusterOps.ClusterDocument
