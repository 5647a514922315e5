import GuestImage.Proofs.Path
import GuestImage.Proofs.Settings.Entry
import GuestImage.Settings.Load

/-!
# Settings as overridden defaults

A settings file that is one mapping replaces the defaults of exactly the fields whose keys it has,
whatever the order of its entries and whatever other keys stand among them. Reading goes entry by
entry; `collects_of_read` says what all entries together gave, and from there on their order plays
no part.
-/

namespace GuestImage.Settings

open Yaml (Node Datum)

/-- Each field has at most one entry. Other keys may be repeated. -/
def FieldsOnce (entries : List Entry) : Prop :=
  ∀ field : Field, (entries.map Entry.key?).count (some field.key) ≤ 1

/-- Settings with the values that entries give: a field has the value of the entry with its key,
and its old value if there is no such entry. -/
structure Replaces (entries : List Entry) (old new : Settings) : Prop where
  given : ∀ entry ∈ entries, ∀ field : Field, entry.key? = some field.key →
    entry.value.Gives (new.get field)
  kept : ∀ field : Field, (∀ entry ∈ entries, entry.key? ≠ some field.key) →
    new.get field = old.get field

/-- What the check of settings comes to. A missing name hides that the disk is empty. -/
inductive Checks (settings : Settings) : Except Failure Settings → Prop where
  | noDefinitionFile (definitionFile : settings.definitionFile = "") :
      Checks settings (.error (.settings "definition_file must not be empty"))
  | noDisk (definitionFile : settings.definitionFile ≠ "") (disk : settings.diskSizeMb = 0) :
      Checks settings (.error (.settings "disk_size_mb must be greater than zero"))
  | passed (definitionFile : settings.definitionFile ≠ "") (disk : settings.diskSizeMb ≠ 0) :
      Checks settings (.ok settings)

/-- The entries of a text that is one document, which is a mapping. -/
def entries? (text : String) : Option (List Entry) :=
  match Yaml.Documents.parse text with
  | some ⟨.root (.mapping properties nodes), false⟩ =>
      some (nodes.map (Entry.of (.mapping properties nodes)))
  | _ => none

/-- The file at a path is a mapping with these entries. -/
def Delivers (files : Files Id) (path : String) (entries : List Entry) : Prop :=
  ∃ text, files.readText path = .ok text ∧ entries? text = some entries

/-- What entries gave that were read one after another. -/
structure Collects (entries : List Entry) (start new : Overrides) : Prop where
  fits : ∀ entry ∈ entries, entry.Fits
  absent : ∀ entry ∈ entries, ∀ field : Field, entry.key? = some field.key →
    start.get? field = none
  given : ∀ entry ∈ entries, ∀ field : Field, entry.key? = some field.key →
    ∃ setting, new.get? field = some setting ∧ entry.value.Gives setting
  kept : ∀ field : Field, (∀ entry ∈ entries, entry.key? ≠ some field.key) →
    new.get? field = start.get? field

section Reading

variable {root : Node} {nodes : List (Node × Node)} {entry : Entry} {entries : List Entry}
variable {start next new : Overrides}

theorem Entry.Adds.fits (added : entry.Adds start next) : entry.Fits := by
  cases added with
  | @passed key key_eq unknown =>
      constructor
      case key_ne_none => simp [key_eq]
      case hasType =>
        intro field same
        exact absurd (Option.some.inj (same.symm.trans key_eq)) (unknown field)
  | @put setting key_eq absent given =>
      constructor
      case key_ne_none => simp [key_eq]
      case hasType =>
        intro field same
        have named : field = setting.field :=
          Field.key_injective (Option.some.inj (same.symm.trans key_eq))
        exact ⟨setting, named.symm, given⟩

theorem Entry.Fits.exists_adds (fits : entry.Fits)
    (absent : ∀ field : Field, entry.key? = some field.key → start.get? field = none) :
    ∃ next, entry.Adds start next := by
  rcases Option.ne_none_iff_exists'.mp fits.key_ne_none with ⟨key, key_eq⟩
  by_cases known : ∃ field : Field, field.key = key
  · rcases known with ⟨field, rfl⟩
    rcases fits.hasType field key_eq with ⟨setting, rfl, given⟩
    exact ⟨_, .put key_eq (absent setting.field key_eq) given⟩
  · exact ⟨_, .passed key_eq (not_exists.mp known)⟩

theorem Collects.nil : Collects [] start start := by
  constructor <;> simp

/-- The entry of a field leaves none for the entries after it, so that its value stays. -/
theorem Collects.cons (added : entry.Adds start next) (collects : Collects entries next new) :
    Collects (entry :: entries) start new := by
  have fits := added.fits
  cases added with
  | @passed key key_eq unknown =>
      have other (field : Field) : entry.key? ≠ some field.key := by
        intro same
        exact unknown field (Option.some.inj (same.symm.trans key_eq))
      constructor
      case fits => exact List.forall_mem_cons.mpr ⟨fits, collects.fits⟩
      case absent =>
        refine List.forall_mem_cons.mpr ⟨?_, collects.absent⟩
        intro field same
        exact absurd same (other field)
      case given =>
        refine List.forall_mem_cons.mpr ⟨?_, collects.given⟩
        intro field same
        exact absurd same (other field)
      case kept =>
        intro field none
        exact collects.kept field (List.forall_mem_cons.mp none).2
  | @put setting key_eq absent given =>
      have named {field : Field} (same : entry.key? = some field.key) : field = setting.field :=
        Field.key_injective (Option.some.inj (same.symm.trans key_eq))
      have last : ∀ later ∈ entries, later.key? ≠ some setting.field.key := by
        intro later member same
        have free := collects.absent later member setting.field same
        rw [Overrides.get?_put_self] at free
        cases free
      constructor
      case fits => exact List.forall_mem_cons.mpr ⟨fits, collects.fits⟩
      case absent =>
        refine List.forall_mem_cons.mpr ⟨?_, ?_⟩
        · intro field same
          rw [named same]
          exact absent
        · intro later member field same
          have other : field ≠ setting.field := by
            rintro rfl
            exact last later member same
          rw [← Overrides.get?_put_of_ne start other]
          exact collects.absent later member field same
      case given =>
        refine List.forall_mem_cons.mpr ⟨?_, collects.given⟩
        intro field same
        refine ⟨setting, ?_, given⟩
        rw [named same, collects.kept setting.field last, Overrides.get?_put_self]
      case kept =>
        intro field none
        have other : field ≠ setting.field := by
          rintro rfl
          exact (List.forall_mem_cons.mp none).1 key_eq
        rw [collects.kept field (List.forall_mem_cons.mp none).2,
          Overrides.get?_put_of_ne start other]

theorem collects_of_read (read : nodes.foldlM (readEntry root) start = .ok new) :
    Collects (nodes.map (Entry.of root)) start new := by
  induction nodes generalizing start with
  | nil =>
      obtain rfl : start = new := Except.ok.inj read
      exact .nil
  | cons node nodes ih =>
      rw [List.foldlM_cons] at read
      rcases bind_eq_ok_iff.mp read with ⟨next, first, rest⟩
      exact .cons (readEntry_eq_ok_iff.mp first) (ih rest)

theorem FieldsOnce.of_cons (once : FieldsOnce (entry :: entries)) : FieldsOnce entries := by
  intro field
  have bound := once field
  rw [List.map_cons, List.count_cons] at bound
  exact Nat.le_trans (Nat.le_add_right _ _) bound

theorem FieldsOnce.ne_of_cons (once : FieldsOnce (entry :: entries)) {field : Field}
    (same : entry.key? = some field.key) : ∀ later ∈ entries, later.key? ≠ some field.key := by
  intro later member again
  have bound := once field
  have present : 0 < (entries.map Entry.key?).count (some field.key) :=
    List.count_pos_iff.mpr (again ▸ List.mem_map_of_mem member)
  rw [List.map_cons, same, List.count_cons_self] at bound
  omega

/-- Entries that fit are all read if no field is given twice. -/
theorem exists_read (fits : ∀ entry ∈ nodes.map (Entry.of root), entry.Fits)
    (once : FieldsOnce (nodes.map (Entry.of root)))
    (absent : ∀ entry ∈ nodes.map (Entry.of root), ∀ field : Field,
      entry.key? = some field.key → start.get? field = none) :
    ∃ new, nodes.foldlM (readEntry root) start = .ok new := by
  induction nodes generalizing start with
  | nil => exact ⟨start, rfl⟩
  | cons node nodes ih =>
      rw [List.map_cons] at fits once absent
      rw [List.forall_mem_cons] at fits absent
      rcases fits.1.exists_adds absent.1 with ⟨next, added⟩
      have absentNext : ∀ entry ∈ nodes.map (Entry.of root), ∀ field : Field,
          entry.key? = some field.key → next.get? field = none := by
        intro later member field same
        cases added with
        | passed => exact absent.2 later member field same
        | @put setting key_eq =>
            have other : field ≠ setting.field := by
              rintro rfl
              exact once.ne_of_cons key_eq later member same
            rw [Overrides.get?_put_of_ne start other]
            exact absent.2 later member field same
      rcases ih fits.2 once.of_cons absentNext with ⟨new, rest⟩
      refine ⟨new, ?_⟩
      rw [List.foldlM_cons]
      exact bind_eq_ok_iff.mpr ⟨next, readEntry_eq_ok_iff.mpr added, rest⟩

end Reading

/-! ## Reading a text -/

theorem readDocuments_eq_ok_iff {documents : Yaml.Documents} {overrides : Overrides} :
    readDocuments documents = .ok overrides ↔
      documents.more = false ∧ readDocument documents.first = .ok overrides := by
  rw [readDocuments, bind_eq_ok_iff]
  cases documents.more with
  | false => simp [pure, Except.pure]
  | true => simp [bind, Except.bind, throw, throwThe, MonadExceptOf.throw]

theorem readText_eq_ok_iff {text : String} {overrides : Overrides} :
    readText text = .ok overrides ↔
      ∃ document, Yaml.Documents.parse text = some ⟨document, false⟩ ∧
        readDocument document = .ok overrides := by
  have mapped (image : Decode.Error → Decode.Error) (read : Except Decode.Error Overrides) :
      read.mapError image = .ok overrides ↔ read = .ok overrides := by
    cases read <;> simp [Except.mapError]
  rw [readText]
  cases Yaml.Documents.parse text with
  | none => simp
  | some documents =>
      rw [mapped, readDocuments_eq_ok_iff]
      rcases documents with ⟨document, more⟩
      simp

theorem Collects.replaces {entries : List Entry} {overrides : Overrides}
    (collects : Collects entries .empty overrides) (old : Settings) :
    Replaces entries old (overrides.apply old) := by
  constructor
  case given =>
    intro entry member field same
    rcases collects.given entry member field same with ⟨setting, found, given⟩
    rw [Overrides.get_apply, found]
    exact given
  case kept =>
    intro field none
    rw [Overrides.get_apply, collects.kept field none, Overrides.get?_empty]
    rfl

theorem checked_eq_iff {settings : Settings} {result : Except Failure Settings} :
    checked settings = result ↔ Checks settings result := by
  rw [checked, flaw?]
  constructor
  · rintro rfl
    by_cases definitionFile : settings.definitionFile = ""
    · rw [if_pos definitionFile]
      exact .noDefinitionFile definitionFile
    · rw [if_neg definitionFile]
      by_cases disk : settings.diskSizeMb = 0
      · rw [if_pos disk]
        exact .noDisk definitionFile disk
      · rw [if_neg disk]
        exact .passed definitionFile disk
  · intro checks
    cases checks with
    | noDefinitionFile definitionFile =>
        rw [if_pos definitionFile]
        rfl
    | noDisk definitionFile disk =>
        rw [if_neg definitionFile, if_pos disk]
        rfl
    | passed definitionFile disk => rw [if_neg definitionFile, if_neg disk]

/-! ## Loading -/

theorem exists_parse_of_entries? {text : String} {entries : List Entry}
    (delivered : entries? text = some entries) :
    ∃ properties nodes,
      Yaml.Documents.parse text = some ⟨.root (.mapping properties nodes), false⟩ ∧
        nodes.map (Entry.of (.mapping properties nodes)) = entries := by
  rw [entries?] at delivered
  split at delivered
  case h_1 properties nodes parsed => exact ⟨properties, nodes, parsed, Option.some.inj delivered⟩
  case h_2 => cases delivered

/-- Reading a text that delivers entries is reading its nodes in order. -/
theorem exists_readText_iff {text : String} {entries : List Entry}
    (delivered : entries? text = some entries) :
    ∃ (root : Node) (nodes : List (Node × Node)), nodes.map (Entry.of root) = entries ∧ ∀ overrides,
      readText text = .ok overrides ↔ nodes.foldlM (readEntry root) .empty = .ok overrides := by
  rcases exists_parse_of_entries? delivered with ⟨properties, nodes, parsed, same⟩
  refine ⟨.mapping properties nodes, nodes, same, ?_⟩
  intro overrides
  rw [readText_eq_ok_iff, parsed]
  simp [readDocument, readRoot]

theorem replaced_ofText {text : String} {entries : List Entry}
    (delivered : entries? text = some entries) (once : FieldsOnce entries)
    (fits : ∀ entry ∈ entries, entry.Fits) (home? : Option SystemPath) :
    ∃ settings, Replaces entries (defaults home?) settings ∧
      Checks settings (ofText home? text) := by
  rcases exists_readText_iff delivered with ⟨root, nodes, rfl, reads⟩
  rcases exists_read fits once fun _ _ field _ => Overrides.get?_empty field with
    ⟨overrides, read⟩
  rw [ofText, (reads overrides).mpr read]
  exact ⟨_, (collects_of_read read).replaces (defaults home?), checked_eq_iff.mp rfl⟩

theorem misfit_ofText {text : String} {entries : List Entry}
    (delivered : entries? text = some entries) (misfit : ∃ entry ∈ entries, ¬entry.Fits)
    (home? : Option SystemPath) : ∃ error, ofText home? text = .error (.decode error) := by
  rcases exists_readText_iff delivered with ⟨root, nodes, rfl, reads⟩
  rcases misfit with ⟨entry, member, unfit⟩
  rw [ofText]
  cases read : readText text with
  | error error => exact ⟨error, rfl⟩
  | ok overrides =>
      have collects := collects_of_read ((reads overrides).mp read)
      exact absurd (collects.fits entry member) unfit

theorem load_eq_ofText {files : Files Id} {path text : String}
    (present : files.readText path = .ok text) (home? : Option SystemPath) :
    load files home? path = ofText home? text := by
  dsimp only [load, bind, pure]
  rw [present]

theorem Delivers.replaced {files : Files Id} {path : String} {entries : List Entry}
    (delivers : Delivers files path entries) (once : FieldsOnce entries)
    (fits : ∀ entry ∈ entries, entry.Fits) (home? : Option SystemPath) :
    ∃ settings, Replaces entries (defaults home?) settings ∧
      Checks settings (load files home? path) := by
  rcases delivers with ⟨text, present, delivered⟩
  rw [load_eq_ofText present]
  exact replaced_ofText delivered once fits home?

theorem Delivers.misfit {files : Files Id} {path : String} {entries : List Entry}
    (delivers : Delivers files path entries) (misfit : ∃ entry ∈ entries, ¬entry.Fits)
    (home? : Option SystemPath) : ∃ error, load files home? path = .error (.decode error) := by
  rcases delivers with ⟨text, present, delivered⟩
  rw [load_eq_ofText present]
  exact misfit_ofText delivered misfit home?

end GuestImage.Settings
