import GuestImage.Failure
import GuestImage.Proofs.Text.Trim
import Mathlib.Data.List.DropRight

/-!
# Names of base images

A name is divided in one way into a distribution and a release (`divides_splitRelease`,
`Divides.splitRelease_eq`), so that a name stands for at most one image. The images that names
stand for are the well-formed ones, and each of them is what its own text stands for.
-/

namespace GuestImage.BaseImage

/-- Images that can be named: the release cannot be mistaken for a part of the distribution, nor
the other way round. -/
structure WF (image : BaseImage) : Prop where
  distribution_ne_empty : image.distribution ≠ ""
  distribution_end : image.distribution.toList.getLast? ≠ some '/'
  release_ne_empty : image.release ≠ ""
  colon_not_mem : ':' ∉ image.release.toList
  slash_not_mem : '/' ∉ image.release.toList
  oneWord : ∀ letter ∈ image.distribution.toList ++ image.release.toList,
    Text.isBlank letter = false

/-- The part of a name after its last slash, or the whole name. -/
def lastPart (name : List Char) : List Char :=
  name.rtakeWhile (· != '/')

/-- A name is divided at its last colon that no slash follows. -/
inductive Divides (name : List Char) : (distribution : List Char) →
    (release? : Option (List Char)) → Prop where
  | released {distribution release : List Char} (whole : name = distribution ++ ':' :: release)
      (noColon : ':' ∉ release) (noSlash : '/' ∉ release) :
      Divides name distribution (some release)
  | bare (noColon : ':' ∉ lastPart name) : Divides name name none

/-- What is wrong with a trimmed name. Of several flaws it has the first. -/
inductive HasFlaw (name : List Char) : Flaw → Prop where
  | empty (empty : name = []) : HasFlaw name .empty
  | severalWords (nonempty : name ≠ []) (blank : ∃ letter ∈ name, Text.isBlank letter = true) :
      HasFlaw name .severalWords
  | noDistribution {distribution : List Char} {release? : Option (List Char)}
      (nonempty : name ≠ []) (oneWord : ∀ letter ∈ name, Text.isBlank letter = false)
      (divided : Divides name distribution release?)
      (missing : distribution = [] ∨ distribution.getLast? = some '/') :
      HasFlaw name .noDistribution
  | noRelease {distribution : List Char}
      (nonempty : name ≠ []) (oneWord : ∀ letter ∈ name, Text.isBlank letter = false)
      (divided : Divides name distribution (some []))
      (present : distribution ≠ [] ∧ distribution.getLast? ≠ some '/') :
      HasFlaw name .noRelease

/-! ## Division -/

theorem reverse_append_cons (front : List Char) (letter : Char) (back : List Char) :
    (front ++ letter :: back).reverse = back.reverse ++ letter :: front.reverse := by
  simp

theorem all_ne_slash {letters : List Char} (noSlash : '/' ∉ letters) :
    letters.reverse.all (· != '/') := by
  rw [List.all_eq_true]
  intro letter member
  simpa using ne_of_mem_of_not_mem (List.mem_reverse.mp member) noSlash

theorem lastPart_append {front back : List Char} (noSlash : '/' ∉ back) :
    lastPart (front ++ '/' :: back) = back := by
  have stop : ∀ letter ∈ ('/' :: front.reverse).head?, (letter != '/') = false := by simp
  rw [lastPart, List.rtakeWhile, reverse_append_cons,
    Text.takeWhile_span (all_ne_slash noSlash) stop, List.reverse_reverse]

theorem colon_mem_lastPart {front back : List Char} (noSlash : '/' ∉ back) :
    ':' ∈ lastPart (front ++ ':' :: back) := by
  have kept := List.all_eq_true.mp (all_ne_slash noSlash)
  rw [lastPart, List.rtakeWhile, reverse_append_cons, List.takeWhile_append_of_pos kept]
  simp

theorem all_isReleaseChar {letters : List Char} (noColon : ':' ∉ letters)
    (noSlash : '/' ∉ letters) : letters.reverse.all isReleaseChar := by
  rw [List.all_eq_true]
  intro letter member
  rw [List.mem_reverse] at member
  simp [isReleaseChar, ne_of_mem_of_not_mem member noColon, ne_of_mem_of_not_mem member noSlash]

theorem splitRelease_self {name : List Char} (noColon : ':' ∉ name) (noSlash : '/' ∉ name) :
    splitRelease name = (name, none) := by
  have kept := List.all_eq_true.mp (all_isReleaseChar noColon noSlash)
  rw [splitRelease, List.dropWhile_eq_nil_iff.mpr kept]

theorem splitRelease_append {front back : List Char} {letter : Char}
    (stops : isReleaseChar letter = false) (noColon : ':' ∉ back) (noSlash : '/' ∉ back) :
    splitRelease (front ++ letter :: back) =
      if letter = ':' then (front, some back) else (front ++ letter :: back, none) := by
  have stop : ∀ first ∈ (letter :: front.reverse).head?, isReleaseChar first = false := by
    simpa using stops
  have kept := all_isReleaseChar noColon noSlash
  rw [splitRelease, reverse_append_cons, Text.dropWhile_span kept stop,
    Text.takeWhile_span kept stop]
  by_cases colon : letter = ':'
  · subst colon
    simp
  · simp [colon]

/-- A name ends in characters of a release. Before them it has its beginning, a colon or a
slash. -/
theorem exists_release (name : List Char) :
    ∃ release, ':' ∉ release ∧ '/' ∉ release ∧
      (name = release ∨ ∃ front letter, isReleaseChar letter = false ∧
        name = front ++ letter :: release) := by
  rcases Text.exists_span isReleaseChar name.reverse with ⟨front, rest, whole, all, stop⟩
  have name_eq : name = rest.reverse ++ front.reverse := by
    rw [← List.reverse_append, ← whole, List.reverse_reverse]
  rw [List.all_eq_true] at all
  refine ⟨front.reverse, ?colon, ?slash, ?before⟩
  case colon =>
    intro member
    cases all ':' (List.mem_reverse.mp member)
  case slash =>
    intro member
    cases all '/' (List.mem_reverse.mp member)
  case before =>
    cases rest with
    | nil => exact .inl name_eq
    | cons letter rest =>
        rw [List.reverse_cons, List.append_assoc, List.singleton_append] at name_eq
        exact .inr ⟨rest.reverse, letter, stop letter rfl, name_eq⟩

theorem colon_or_slash {letter : Char} (stops : isReleaseChar letter = false) :
    letter = ':' ∨ letter = '/' := by
  simpa [isReleaseChar, or_iff_not_imp_left] using stops

theorem divides_splitRelease (name : List Char) :
    Divides name (splitRelease name).1 (splitRelease name).2 := by
  rcases exists_release name with
    ⟨release, noColon, noSlash, rfl | ⟨front, letter, stops, rfl⟩⟩
  · rw [splitRelease_self noColon noSlash]
    exact .bare fun member => noColon ((List.rtakeWhile_suffix _ _).subset member)
  · rw [splitRelease_append stops noColon noSlash]
    rcases colon_or_slash stops with rfl | rfl
    · exact .released rfl noColon noSlash
    · refine .bare ?_
      rwa [lastPart_append noSlash]

/-- There is one way to divide a name. -/
theorem Divides.splitRelease_eq {name distribution : List Char}
    {release? : Option (List Char)} (divided : Divides name distribution release?) :
    splitRelease name = (distribution, release?) := by
  cases divided with
  | released whole noColon noSlash =>
      rw [whole, splitRelease_append (by decide) noColon noSlash, if_pos rfl]
  | bare noColon =>
      rcases exists_release name with
        ⟨release, missing, noSlash, rfl | ⟨front, letter, stops, rfl⟩⟩
      · exact splitRelease_self missing noSlash
      -- A colon here would be in the last part, since no slash follows it.
      · rcases colon_or_slash stops with rfl | rfl
        · exact absurd (colon_mem_lastPart noSlash) noColon
        · rw [splitRelease_append stops missing noSlash, if_neg (by decide)]

/-! ## Flaws -/

theorem isBlank_eq_false_iff {letters : List Char} :
    (∀ letter ∈ letters, Text.isBlank letter = false) ↔ letters.any Text.isBlank = false := by
  simp

theorem flaw?_eq_some_iff {name : List Char} {flaw : Flaw} :
    flaw? name = some flaw ↔ HasFlaw name flaw := by
  constructor
  · intro found
    have divided := divides_splitRelease name
    simp only [flaw?] at found
    split_ifs at found with empty blank missing unreleased
    · cases found
      exact .empty (List.isEmpty_iff.mp empty)
    · cases found
      exact .severalWords (by simpa using empty) (by simpa using blank)
    · cases found
      exact .noDistribution (by simpa using empty)
        (isBlank_eq_false_iff.mpr (eq_false_of_ne_true blank)) divided (by simpa using missing)
    · cases found
      rw [beq_iff_eq.mp unreleased] at divided
      exact .noRelease (by simpa using empty)
        (isBlank_eq_false_iff.mpr (eq_false_of_ne_true blank)) divided (by simpa using missing)
  · intro has
    cases has with
    | empty empty => simp [flaw?, empty]
    | severalWords nonempty blank =>
        have several : name.any Text.isBlank = true := by simpa using blank
        simp [flaw?, nonempty, several]
    | noDistribution nonempty oneWord divided missing =>
        have single := isBlank_eq_false_iff.mp oneWord
        rw [flaw?, divided.splitRelease_eq]
        simp [nonempty, single, missing]
    | noRelease nonempty oneWord divided present =>
        have single := isBlank_eq_false_iff.mp oneWord
        rw [flaw?, divided.splitRelease_eq]
        simp [nonempty, single, present]

theorem flaw?_eq_none_iff {name distribution : List Char} {release? : Option (List Char)}
    (divided : Divides name distribution release?) :
    flaw? name = none ↔ distribution ≠ [] ∧ distribution.getLast? ≠ some '/' ∧
      release? ≠ some [] ∧ ∀ letter ∈ name, Text.isBlank letter = false := by
  have nonempty (present : distribution ≠ []) : name ≠ [] := by
    rintro rfl
    cases divided with
    | released whole => simp at whole
    | bare => exact present rfl
  rw [flaw?, divided.splitRelease_eq]
  constructor
  · intro sound
    simp only at sound
    split_ifs at sound with empty blank missing unreleased
    have present := not_or.mp (by simpa using missing)
    exact ⟨present.1, present.2, by simpa using unreleased, by simpa using blank⟩
  · rintro ⟨present, ending, released, oneWord⟩
    have single := isBlank_eq_false_iff.mp oneWord
    simp [nonempty present, single, present, ending, released]

/-! ## Images -/

/-- The image that a name stands for if it is divided so. -/
def ofParts (distribution : List Char) (release? : Option (List Char)) : BaseImage :=
  ⟨String.ofList distribution, (release?.map String.ofList).getD defaultRelease⟩

theorem parse_eq_of_divides {name : String} {distribution : List Char}
    {release? : Option (List Char)}
    (divided : Divides (Text.trim name).toList distribution release?) :
    parse name = match flaw? (Text.trim name).toList with
      | some flaw => .error ⟨Text.trim name, flaw⟩
      | none => .ok (ofParts distribution release?) := by
  rw [Text.toList_trim] at divided ⊢
  rw [parse, divided.splitRelease_eq]
  rfl

theorem wf_ofList_iff {distribution : List Char} {release : String} :
    WF ⟨String.ofList distribution, release⟩ ↔
      distribution ≠ [] ∧ distribution.getLast? ≠ some '/' ∧ release ≠ "" ∧
        ':' ∉ release.toList ∧ '/' ∉ release.toList ∧
        ∀ letter ∈ distribution ++ release.toList, Text.isBlank letter = false := by
  constructor
  · rintro ⟨present, ending, released, noColon, noSlash, oneWord⟩
    rw [String.toList_ofList] at ending oneWord
    exact ⟨by simpa using present, ending, released, noColon, noSlash, oneWord⟩
  · rintro ⟨present, ending, released, noColon, noSlash, oneWord⟩
    refine ⟨by simpa using present, ?_, released, noColon, noSlash, ?_⟩
    · rwa [String.toList_ofList]
    · rwa [String.toList_ofList]

/-- The images of names without a flaw. -/
theorem wf_ofParts_iff {name distribution : List Char} {release? : Option (List Char)}
    (divided : Divides name distribution release?) :
    (ofParts distribution release?).WF ↔ flaw? name = none := by
  rw [flaw?_eq_none_iff divided]
  cases divided with
  | released whole noColon noSlash =>
      have colon : Text.isBlank ':' = false := by decide
      rw [ofParts, Option.map_some, Option.getD_some, wf_ofList_iff, whole]
      simp [noColon, noSlash, colon, or_imp, forall_and]
  | bare =>
      have latest : defaultRelease ≠ "" ∧ ':' ∉ defaultRelease.toList ∧
          '/' ∉ defaultRelease.toList ∧ defaultRelease.toList.any Text.isBlank = false := by
        decide
      rw [ofParts, Option.map_none, Option.getD_none, wf_ofList_iff]
      constructor
      · rintro ⟨present, ending, -, -, -, oneWord⟩
        refine ⟨present, ending, nofun, ?_⟩
        intro letter member
        exact oneWord letter (List.mem_append_left _ member)
      · rintro ⟨present, ending, -, oneWord⟩
        refine ⟨present, ending, latest.1, latest.2.1, latest.2.2.1, ?_⟩
        intro letter member
        rcases List.mem_append.mp member with own | default
        · exact oneWord letter own
        · exact isBlank_eq_false_iff.mpr latest.2.2.2 letter default

theorem parse_eq_ok_of_divides {name : String} {distribution : List Char}
    {release? : Option (List Char)} {image : BaseImage}
    (divided : Divides (Text.trim name).toList distribution release?) :
    parse name = .ok image ↔ image.WF ∧ image = ofParts distribution release? := by
  have wf := wf_ofParts_iff divided
  rw [parse_eq_of_divides divided]
  cases found : flaw? (Text.trim name).toList with
  | some flaw =>
      rw [found] at wf
      constructor
      · intro parsed
        cases parsed
      · rintro ⟨sound, rfl⟩
        cases wf.mp sound
  | none =>
      constructor
      · rintro ⟨⟩
        exact ⟨wf.mpr found, rfl⟩
      · rintro ⟨-, rfl⟩
        rfl

/-- A name is divided into the parts of a well-formed image if it is the text of the image, or its
distribution alone where the latest release is meant. -/
theorem exists_divides_iff {name : String} {image : BaseImage} (wf : image.WF) :
    (∃ distribution release?, Divides name.toList distribution release? ∧
      image = ofParts distribution release?) ↔
    name = image.text ∨ image.release = "latest" ∧ name = image.distribution ∧
      ':' ∉ lastPart name.toList := by
  constructor
  · rintro ⟨distribution, release?, divided, rfl⟩
    cases divided with
    | released whole =>
        left
        apply String.toList_inj.mp
        simp [ofParts, text, whole]
    | bare noColon => exact .inr ⟨rfl, by simp [ofParts], noColon⟩
  · rintro (whole | ⟨latest, whole, noColon⟩)
    · refine ⟨image.distribution.toList, some image.release.toList, ?_, by simp [ofParts]⟩
      refine .released ?_ wf.colon_not_mem wf.slash_not_mem
      simp [whole, text]
    · refine ⟨name.toList, none, .bare noColon, ?_⟩
      rw [ofParts, whole, String.ofList_toList, Option.map_none, Option.getD_none,
        defaultRelease, ← latest]

theorem parse_ok_iff_wf {name : String} {image : BaseImage} :
    parse name = .ok image ↔ image.WF ∧ (Text.trim name = image.text ∨
      image.release = "latest" ∧ Text.trim name = image.distribution ∧
        ':' ∉ lastPart (Text.trim name).toList) := by
  constructor
  · intro parsed
    have divided := divides_splitRelease (Text.trim name).toList
    rcases (parse_eq_ok_of_divides divided).mp parsed with ⟨wf, parts⟩
    exact ⟨wf, (exists_divides_iff wf).mp ⟨_, _, divided, parts⟩⟩
  · rintro ⟨wf, names⟩
    rcases (exists_divides_iff wf).mpr names with ⟨distribution, release?, divided, parts⟩
    exact (parse_eq_ok_of_divides divided).mpr ⟨wf, parts⟩

/-- A text without blank characters is trimmed. -/
theorem WF.trim_text {image : BaseImage} (wf : image.WF) : Text.trim image.text = image.text := by
  have oneWord : ∀ letter ∈ image.text.toList, Text.isBlank letter = false := by
    have colon : Text.isBlank ':' = false := by decide
    have parts := wf.oneWord
    simp only [List.mem_append, or_imp, forall_and] at parts
    simpa [text, or_imp, forall_and, colon] using parts
  have trimmed : Text.Trimmed image.text.toList := by
    constructor
    · intro letter first
      exact oneWord letter (List.mem_of_mem_head? first)
    · intro letter last
      exact oneWord letter (List.mem_of_mem_getLast? last)
  apply String.toList_inj.mp
  rw [Text.toList_trim, trimmed.trimList_eq]

theorem WF.parse_text {image : BaseImage} (wf : image.WF) : parse image.text = .ok image :=
  parse_ok_iff_wf.mpr ⟨wf, .inl wf.trim_text⟩

theorem parse_error_iff_hasFlaw {name : String} {rejection : Rejection} :
    parse name = .error rejection ↔
      rejection.value = Text.trim name ∧
        HasFlaw (Text.trim name).toList rejection.flaw := by
  rcases rejection with ⟨value, flaw⟩
  have divided := divides_splitRelease (Text.trim name).toList
  rw [parse_eq_of_divides divided, ← flaw?_eq_some_iff]
  cases flaw? (Text.trim name).toList with
  | none => simp
  | some found => simp [eq_comm]

/-- What names stand for. An image is what a name stands for if it is well formed and the trimmed
name is its text, or its distribution where the latest release is meant. Each such image is what
its own text stands for, and any other name is rejected for its first flaw. -/
theorem parse_exact :
    (∀ name image, parse name = .ok image ↔
      image.WF ∧ (Text.trim name = image.text ∨
        image.release = "latest" ∧ Text.trim name = image.distribution ∧
          ':' ∉ lastPart (Text.trim name).toList)) ∧
    (∀ name image, parse name = .ok image → parse image.text = .ok image) ∧
    (∀ image : BaseImage, image.WF → parse image.text = .ok image) ∧
    ∀ name failure, (parse name).mapError Failure.ofRejection = .error failure ↔
      ∃ flaw, HasFlaw (Text.trim name).toList flaw ∧
        failure = .origin (Text.trim name) flaw.message := by
  refine ⟨fun _ _ => parse_ok_iff_wf, ?again, fun _ wf => wf.parse_text, ?rejects⟩
  case again =>
    intro name image parsed
    exact (parse_ok_iff_wf.mp parsed).1.parse_text
  case rejects =>
    intro name failure
    constructor
    · intro failed
      cases parsed : parse name with
      | ok image =>
          rw [parsed] at failed
          cases failed
      | error rejection =>
          rw [parsed] at failed
          rcases parse_error_iff_hasFlaw.mp parsed with ⟨value, flawed⟩
          refine ⟨rejection.flaw, flawed, ?_⟩
          rw [← Except.error.inj failed, Failure.ofRejection, value]
    · rintro ⟨flaw, flawed, rfl⟩
      have parsed : parse name = .error ⟨Text.trim name, flaw⟩ :=
        parse_error_iff_hasFlaw.mpr ⟨rfl, flawed⟩
      rw [parsed]
      rfl

/-- A port is no release, and a slash in front of the release leaves no distribution. -/
theorem parse_exact_port :
    let image : BaseImage := ⟨"mirror.local:5000/alpine", "latest"⟩
    image.WF ∧ parse " mirror.local:5000/alpine\t" = .ok image ∧
      parse "mirror.local:5000/alpine:latest" = .ok image ∧
      (parse " images/:1").mapError Failure.ofRejection =
        .error (.origin "images/:1" "missing distribution name") := by
  intro image
  have oneWord := isBlank_eq_false_iff.mpr
    (by decide : (image.distribution.toList ++ image.release.toList).any Text.isBlank = false)
  have wf : image.WF :=
    ⟨by decide, by decide, by decide, by decide, by decide, oneWord⟩
  rcases parse_exact with ⟨accepts, again, own, rejects⟩
  have parsed : parse " mirror.local:5000/alpine\t" = .ok image :=
    (accepts _ image).mpr ⟨wf, .inr (by decide)⟩
  have divided : Divides (Text.trim " images/:1").toList "images/".toList (some ['1']) :=
    .released (by decide) (by decide) (by decide)
  have flawed : HasFlaw (Text.trim " images/:1").toList .noDistribution :=
    .noDistribution (by decide) (isBlank_eq_false_iff.mpr (by decide)) divided (by decide)
  exact ⟨wf, parsed, again _ image parsed, (rejects _ _).mpr ⟨_, flawed, by decide⟩⟩

end GuestImage.BaseImage
