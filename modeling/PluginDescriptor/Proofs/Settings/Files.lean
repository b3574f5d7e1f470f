import PluginDescriptor.Proofs.Settings.Sources
import PluginDescriptor.Proofs.Text.Utf8

/-!
# Settings in files

A file of settings holds a mapping or nothing, and anything else is an error of configuration: a path
that leads nowhere, a directory, a file that cannot be opened, a text that is no YAML document, and a
document that is no mapping.
`Source.FileReads` says in full what reading comes to, and with that names what falls outside of this
rule: other documents that count as nothing, bytes that are no text, scalars that are not converted,
and names that are too long.
-/

set_option autoImplicit false

namespace PluginDescriptor

/-! ## Texts in files -/

namespace FileTree

variable {files : FileTree} {path : Path}

/-- The path leads to a file of text. Its bytes are those of the text as it is written; every end of
line is read as a line feed. -/
def HoldsText (files : FileTree) (path : Path) (text : String) : Prop :=
  ∃ written, files.find path = .ok (.file (Text.encodeUtf8 written)) ∧
    text = String.ofList (Text.plainBreaks written.toList)

/-- The path leads to a file whose bytes are no text. -/
def HoldsNoText (files : FileTree) (path : Path) : Prop :=
  ∃ bytes, files.find path = .ok (.file bytes) ∧ ∀ written, bytes ≠ Text.encodeUtf8 written

/-- Names are followed as far as there are directories. -/
theorem follow_eq_error (names place : List String) {refusal : Refusal}
    (h : files.follow place names = .error refusal) :
    refusal.isAbsence = true ∨ refusal = .nameTooLong := by
  induction names generalizing place with
  | nil => cases h
  | cons name rest ih =>
    rw [follow] at h
    split at h
    · cases h
      exact .inl rfl
    · cases h
      exact .inl rfl
    · cases h
      exact .inl rfl
    · split at h
      · exact ih _ h
      · split at h
        · cases h
          exact .inr rfl
        · exact ih _ h

/-- A path that is refused leads nowhere, or is too long. -/
theorem find_eq_error {refusal : Refusal} (h : files.find path = .error refusal) :
    refusal.isAbsence = true ∨ refusal = .nameTooLong := by
  obtain hplace | ⟨place, -, hnode⟩ := bind_eq_error_iff.mp h
  · unfold place at hplace
    split at hplace
    · cases hplace
      exact .inl rfl
    · split at hplace
      · cases hplace
        exact .inr rfl
      · exact follow_eq_error _ _ hplace
  · split at hnode
    · cases hnode
    · cases hnode
      exact .inl rfl

theorem readBytes_of_file {bytes : List UInt8} (h : files.find path = .ok (.file bytes)) :
    files.readBytes path = .ok bytes := by
  rw [readBytes, h]

theorem readPieces_of_file {bytes : List UInt8} (h : files.find path = .ok (.file bytes)) :
    files.readPieces path =
      match Text.decodePiecewise pieceSize (bytes.length / pieceSize + 1) [] bytes with
      | .ok chars => .ok (String.ofList (Text.plainBreaks chars))
      | .error fault => .error (.notText fault.message) := by
  rw [readPieces, readBytes_of_file h]
  rfl

/-- A file that holds a text is read as it, wherever the pieces end that it is read in. -/
theorem readPieces_of_holdsText {text : String} (h : files.HoldsText path text) :
    files.readPieces path = .ok text := by
  obtain ⟨written, hfile, rfl⟩ := h
  have hchars := (Text.decodePiecewise_eq_ok_iff pieceSize
    ((Text.encodeUtf8 written).length / pieceSize + 1) [] (Text.encodeUtf8 written)
    written.toList).mpr (Text.encodeUtf8_eq written)
  rw [readPieces_of_file hfile, hchars]

/-- A file without a text is found to have none. -/
theorem readPieces_of_holdsNoText (h : files.HoldsNoText path) :
    ∃ message, files.readPieces path = .error (.notText message) := by
  obtain ⟨bytes, hfile, hbytes⟩ := h
  rw [readPieces_of_file hfile]
  split
  · rename_i chars hchars
    have hwritten := (Text.decodePiecewise_eq_ok_iff _ _ [] bytes chars).mp hchars
    exact (hbytes (String.ofList chars) (hwritten.trans (Text.encodeUtf8_ofList chars).symm)).elim
  · exact ⟨_, rfl⟩

/-- A path leads to a text, to bytes that are none, to a file that cannot be opened, to a directory,
nowhere, or is too long. -/
theorem holds_cases (files : FileTree) (path : Path) :
    (∃ text, files.HoldsText path text) ∨ files.HoldsNoText path ∨
      files.find path = .ok .closed ∨ files.find path = .ok .directory ∨
      (∃ refusal, files.find path = .error refusal ∧ refusal.isAbsence = true) ∨
      files.find path = .error .nameTooLong := by
  cases hfind : files.find path with
  | ok node =>
    cases node with
    | file bytes =>
      by_cases hbytes : ∃ written, bytes = Text.encodeUtf8 written
      · obtain ⟨written, rfl⟩ := hbytes
        exact .inl ⟨_, written, hfind, rfl⟩
      · exact .inr (.inl ⟨bytes, hfind, not_exists.mp hbytes⟩)
    | closed => exact .inr (.inr (.inl rfl))
    | directory => exact .inr (.inr (.inr (.inl rfl)))
  | error refusal =>
    obtain habsence | rfl := find_eq_error hfind
    · exact .inr (.inr (.inr (.inr (.inl ⟨refusal, rfl, habsence⟩))))
    · exact .inr (.inr (.inr (.inr (.inr rfl))))

theorem HoldsText.contains {text : String} (h : files.HoldsText path text) :
    files.contains path = .ok true := by
  obtain ⟨_, hfile, -⟩ := h
  rw [FileTree.contains, hfile]

theorem HoldsNoText.contains (h : files.HoldsNoText path) : files.contains path = .ok true := by
  obtain ⟨_, hfile, -⟩ := h
  rw [FileTree.contains, hfile]

end FileTree

/-! ## Settings -/

namespace Source

/-- What reading the settings in a file comes to. -/
inductive FileReads (files : FileTree) (path : Path) : Except Failure Entries → Prop where
  /-- A mapping is held. -/
  | mapping {text : String} {entries : Entries} (holds : files.HoldsText path text)
      (document : Value.ofYaml text = .ok (.map entries)) : FileReads files path (.ok entries)
  /-- An empty document holds nothing. -/
  | empty {text : String} (holds : files.HoldsText path text)
      (document : Value.ofYaml text = .ok .null) : FileReads files path (.ok [])
  /-- Any other document is refused, -/
  | notMapping {text : String} {v : Value} (holds : files.HoldsText path text)
      (document : Value.ofYaml text = .ok v) (kind : ¬ v.IsMap) (truth : v.isTruthy = true) :
      FileReads files path (.error (.configuration (.fileNotMapping path.text)))
  /-- unless it counts as false: an empty list or text, zero, or false itself. -/
  | overlooked {text : String} {v : Value} (holds : files.HoldsText path text)
      (document : Value.ofYaml text = .ok v) (kind : ¬ v.IsMap) (present : v ≠ .null)
      (truth : v.isTruthy = false) : FileReads files path (.ok [])
  | notYaml {text : String} (holds : files.HoldsText path text)
      (document : Value.ofYaml text = .error .notYaml) :
      FileReads files path (.error (.configuration (.fileNotYaml path.text .notYaml)))
  /-- A refusal of the file system that comes out of reading YAML counts as one of the file. -/
  | stopped {text : String} {number : Nat} {reason name : String}
      (holds : files.HoldsText path text)
      (document : Value.ofYaml text = .error (.system number reason name)) :
      FileReads files path
        (.error (.configuration (.fileUnreadable path.text (.system number reason name))))
  /-- A scalar that is not converted is no error of configuration, nor is a text that is not followed to
  its value. -/
  | unconverted {text : String} {fault : Fault} (holds : files.HoldsText path text)
      (document : Value.ofYaml text = .error fault) (syntactic : fault ≠ .notYaml)
      (foreign : ∀ number reason name, fault ≠ .system number reason name) :
      FileReads files path (.error (.fault fault))
  /-- Nor are bytes that are no text. -/
  | notText {message : String} (holds : files.HoldsNoText path)
      (read : files.readPieces path = .error (.notText message)) :
      FileReads files path (.error (.fault (.notText message)))
  | closed (leads : files.find path = .ok .closed) :
      FileReads files path
        (.error (.configuration (.fileUnreadable path.text (Refusal.notPermitted.fault path))))
  | directory (leads : files.find path = .ok .directory) :
      FileReads files path
        (.error (.configuration (.fileUnreadable path.text (Refusal.isDirectory.fault path))))
  | absent {refusal : Refusal} (leads : files.find path = .error refusal)
      (absence : refusal.isAbsence = true) :
      FileReads files path (.error (.configuration (.fileNotFound path.text)))
  /-- A name that is too long is refused when the file is looked for, before it is read. -/
  | tooLong (leads : files.find path = .error .nameTooLong) :
      FileReads files path (.error (.fault (Refusal.nameTooLong.fault path)))

variable {files : FileTree} {path : Path}

/-- The settings in a document: a mapping, nothing when it counts as false, and otherwise none. -/
def documentSettings (path : Path) : Value → Except Failure Entries
  | .map entries => .ok entries
  | v => if v.isTruthy then .error (.configuration (.fileNotMapping path.text)) else .ok []

theorem documentSettings_of_not_isMap {v : Value} (hkind : ¬ v.IsMap) :
    documentSettings path v =
      if v.isTruthy then .error (.configuration (.fileNotMapping path.text)) else .ok [] := by
  cases v with
  | map entries => exact (hkind ⟨entries, rfl⟩).elim
  | _ => rfl

/-- What is there is read. -/
theorem readFile_of_contains (h : files.contains path = .ok true) :
    readFile files path =
      ((readDocument files path).mapError (fileFailure path) >>= documentSettings path) := by
  have hfind : ∀ v : Value, documentSettings path v = match v with
      | .map entries => .ok entries
      | v => if v.isTruthy then .error (.configuration (.fileNotMapping path.text)) else .ok [] :=
    fun v => by cases v <;> rfl
  rw [readFile, h, funext hfind]
  rfl

theorem readFile_of_unread {fault : Fault} (hthere : files.contains path = .ok true)
    (hread : files.readPieces path = .error fault) :
    readFile files path = .error (fileFailure path fault) := by
  rw [readFile_of_contains hthere, readDocument, hread]
  rfl

theorem readFile_of_document {text : String} {v : Value} (hholds : files.HoldsText path text)
    (hdocument : Value.ofYaml text = .ok v) : readFile files path = documentSettings path v := by
  rw [readFile_of_contains hholds.contains, readDocument,
    FileTree.readPieces_of_holdsText hholds, ok_bind_eq, hdocument]
  rfl

theorem readFile_of_noDocument {text : String} {fault : Fault} (hholds : files.HoldsText path text)
    (hdocument : Value.ofYaml text = .error fault) :
    readFile files path = .error (fileFailure path fault) := by
  rw [readFile_of_contains hholds.contains, readDocument,
    FileTree.readPieces_of_holdsText hholds, ok_bind_eq, hdocument]
  rfl

/-- What is there and refused when it is opened is an unreadable file. -/
theorem readFile_of_refused {refusal : Refusal} (hthere : files.contains path = .ok true)
    (hread : files.readBytes path = .error (refusal.fault path)) (hnul : refusal ≠ .embeddedNul) :
    readFile files path =
      .error (.configuration (.fileUnreadable path.text (refusal.fault path))) := by
  have hpieces : files.readPieces path = .error (refusal.fault path) := by
    rw [FileTree.readPieces, hread]
    rfl
  rw [readFile_of_unread hthere hpieces]
  cases refusal with
  | embeddedNul => exact (hnul rfl).elim
  | _ => rfl

theorem fileFailure_of_foreign {fault : Fault} (hsyntactic : fault ≠ .notYaml)
    (hforeign : ∀ number reason name, fault ≠ .system number reason name) :
    fileFailure path fault = .fault fault := by
  cases fault with
  | notYaml => exact (hsyntactic rfl).elim
  | system number reason name => exact (hforeign number reason name rfl).elim
  | _ => rfl

/-- Each of these cases is what reading comes to. -/
theorem FileReads.eq {outcome : Except Failure Entries} (h : FileReads files path outcome) :
    readFile files path = outcome := by
  cases h with
  | mapping holds document => exact readFile_of_document holds document
  | empty holds document => exact readFile_of_document holds document
  | notMapping holds document kind truth =>
    rw [readFile_of_document holds document, documentSettings_of_not_isMap kind, if_pos truth]
  | overlooked holds document kind present truth =>
    rw [readFile_of_document holds document, documentSettings_of_not_isMap kind, truth]
    rfl
  | notYaml holds document => exact readFile_of_noDocument holds document
  | stopped holds document => exact readFile_of_noDocument holds document
  | unconverted holds document syntactic foreign =>
    rw [readFile_of_noDocument holds document, fileFailure_of_foreign syntactic foreign]
  | notText holds read => exact readFile_of_unread holds.contains read
  | closed leads | directory leads =>
    have hthere : files.contains path = .ok true := by rw [FileTree.contains, leads]
    exact readFile_of_refused hthere (by rw [FileTree.readBytes, leads]) nofun
  | absent leads absence =>
    rw [readFile, FileTree.contains, leads]
    dsimp only
    rw [if_pos absence]
    rfl
  | tooLong leads =>
    rw [readFile, FileTree.contains, leads]
    rfl

/-- One of these cases is there. -/
theorem exists_fileReads (files : FileTree) (path : Path) :
    ∃ outcome, FileReads files path outcome := by
  obtain ⟨text, hholds⟩ | hholds | hleads | hleads | ⟨refusal, hleads, habsence⟩ | hleads :=
    FileTree.holds_cases files path
  · cases hdocument : Value.ofYaml text with
    | ok v =>
      by_cases hkind : v.IsMap
      · obtain ⟨entries, rfl⟩ := hkind
        exact ⟨_, .mapping hholds hdocument⟩
      · cases htruth : v.isTruthy with
        | true => exact ⟨_, .notMapping hholds hdocument hkind htruth⟩
        | false =>
          by_cases hnull : v = .null
          · subst hnull
            exact ⟨_, .empty hholds hdocument⟩
          · exact ⟨_, .overlooked hholds hdocument hkind hnull htruth⟩
    | error fault =>
      cases fault with
      | notYaml => exact ⟨_, .notYaml hholds hdocument⟩
      | system number reason name => exact ⟨_, .stopped hholds hdocument⟩
      | _ => exact ⟨_, .unconverted hholds hdocument nofun nofun⟩
  · obtain ⟨message, hread⟩ := FileTree.readPieces_of_holdsNoText hholds
    exact ⟨_, .notText hholds hread⟩
  · exact ⟨_, .closed hleads⟩
  · exact ⟨_, .directory hleads⟩
  · exact ⟨_, .absent hleads habsence⟩
  · exact ⟨_, .tooLong hleads⟩

/-- Reading the settings in a file comes to one of these cases, and to no more: a mapping is held, an
empty document holds nothing, and all else is an error of configuration, but for documents that count
as false, scalars that are not converted, bytes that are no text and names that are too long. -/
theorem readFile_eq_iff (files : FileTree) (path : Path) (outcome : Except Failure Entries) :
    readFile files path = outcome ↔ FileReads files path outcome := by
  constructor
  · rintro rfl
    obtain ⟨outcome, h⟩ := exists_fileReads files path
    exact h.eq.symm ▸ h
  · exact FileReads.eq

/-- The usual file of settings, with these bytes. -/
def usualFile (bytes : List UInt8) : FileTree :=
  { working := [], nodes := [(["polaris.yaml"], .file bytes)] }

theorem find_usualFile (bytes : List UInt8) :
    (usualFile bytes).find (Path.ofText "polaris.yaml") = .ok (.file bytes) := by
  have hpath : Path.ofText "polaris.yaml" = ⟨"", ["polaris.yaml"]⟩ := by decide +kernel
  rw [hpath]
  rfl

/-- A file with an empty list is read as settings that say nothing, and a byte that begins no character
is no error of configuration. -/
theorem readFile_listAndByte :
    readFile (usualFile (Text.encodeUtf8 "[]\n")) (Path.ofText "polaris.yaml") = .ok [] ∧
      ∃ message, readFile (usualFile [0xFF]) (Path.ofText "polaris.yaml") =
        .error (.fault (.notText message)) := by
  constructor
  · have hplain : String.ofList (Text.plainBreaks "[]\n".toList) = "[]\n" := by decide +kernel
    have hlist : (Value.ofYaml "[]\n").toOption = some (.list []) := by decide +kernel
    exact FileReads.eq (.overlooked ⟨"[]\n", find_usualFile _, hplain.symm⟩
      (toOption_eq_some_iff.mp hlist) nofun nofun rfl)
  · have hbytes : ∀ written, [0xFF] ≠ Text.encodeUtf8 written := by
      intro written h
      rw [Text.encodeUtf8_eq] at h
      cases Text.decodeUtf8_eq_ok_iff.mpr h
    have hholds : (usualFile [0xFF]).HoldsNoText (Path.ofText "polaris.yaml") :=
      ⟨[0xFF], find_usualFile _, hbytes⟩
    obtain ⟨message, hread⟩ := FileTree.readPieces_of_holdsNoText hholds
    exact ⟨message, FileReads.eq (.notText hholds hread)⟩

end Source

end PluginDescriptor
