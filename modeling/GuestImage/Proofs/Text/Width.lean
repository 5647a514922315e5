import GuestImage.Text.Cluster

/-!
# Width and spaces

A space is a cluster of its own, whatever stands around it. So the columns of a text are those of
its parts on both sides of a space, and the one of the space. So is each visible character of ASCII,
and a text of these has as many columns as characters.
-/

namespace GuestImage.Text

theorem Ligature.extend?_space (ligature : Ligature) (columns : Nat) :
    ligature.extend? columns ' ' = none := by
  cases ligature with
  | lamed joined | buginese joined | tifinagh joined | oldTurkic joined => cases joined <;> rfl
  | alef | subscript | bugineseVowel | tifinaghJoined | lisuTone => rfl

theorem VowelSign.extend?_space (sign : VowelSign) (columns : Nat) :
    sign.extend? columns ' ' = none := by
  cases sign <;> rfl

theorem Pictograph.extend?_space (pictograph : Pictograph) (columns : Nat) :
    pictograph.extend? columns ' ' = none := by
  cases pictograph <;> rfl

namespace Cluster

theorem attach?_space (cluster : Cluster) : cluster.attach? ' ' = none := by
  rw [attach?]
  cases cluster.front with
  | plain | lineFeed => rfl
  | ligature part => exact congrArg (Option.map _) (part.extend?_space cluster.columns)
  | vowelSign part => exact congrArg (Option.map _) (part.extend?_space cluster.columns)
  | pictograph part => exact congrArg (Option.map _) (part.extend?_space cluster.columns)

theorem reshape?_space (cluster : Cluster) (selector : Selector) :
    cluster.reshape? selector ' ' = none := by
  cases selector <;> rfl

/-- A space belongs to no cluster behind it. -/
theorem extend?_space (cluster : Cluster) : cluster.extend? ' ' = none := by
  have other : Selector.ofChar? ' ' = none := rfl
  rw [extend?, other]
  cases cluster.selector with
  | none => exact cluster.attach?_space
  | some selector =>
      simp only [reshape?_space, attach?_space]
      cases cluster.front <;> rfl

/-- Nothing before a plain character belongs to its cluster. -/
theorem extend?_plain (columns : Nat) (letter : Char) :
    Cluster.extend? ⟨columns, .plain, none⟩ letter = none := by
  rw [extend?]
  cases Selector.ofChar? letter <;> rfl

theorem extend?_ofChar_space (letter : Char) : (ofChar ' ').extend? letter = none := by
  have alone : ofChar ' ' = ⟨1, .plain, none⟩ := by decide
  rw [alone, extend?_plain]

end Cluster

theorem clusters_cons (letter : Char) (rest : List Char) :
    clusters (letter :: rest) = addToClusters letter (clusters rest) := rfl

theorem clusters_cons_space (back : List Char) :
    clusters (' ' :: back) = .ofChar ' ' :: clusters back := by
  rw [clusters_cons]
  cases clusters back with
  | nil => rfl
  | cons cluster rest => rw [addToClusters, cluster.extend?_space]

theorem addToClusters_space (letter : Char) (behind : List Cluster) :
    addToClusters letter (.ofChar ' ' :: behind) = .ofChar letter :: .ofChar ' ' :: behind := by
  rw [addToClusters, Cluster.extend?_ofChar_space]

theorem clusters_append_space (front back : List Char) :
    clusters (front ++ ' ' :: back) = clusters front ++ .ofChar ' ' :: clusters back := by
  -- Clusters grow to the front, so a letter meets the one of the space only right before it.
  induction front with
  | nil => exact clusters_cons_space back
  | cons letter front ih =>
      rw [List.cons_append, clusters_cons, ih, clusters_cons]
      cases clusters front with
      | nil => exact addToClusters_space letter (clusters back)
      | cons cluster rest =>
          rw [List.cons_append, addToClusters, addToClusters]
          cases cluster.extend? letter <;> rfl

/-- The columns that clusters take together. -/
def totalColumns (clusters : List Cluster) : Nat :=
  clusters.foldr (fun cluster total => cluster.columns + total) 0

theorem columns_eq_totalColumns (letters : List Char) :
    columns letters = totalColumns (clusters letters) := rfl

theorem totalColumns_cons (cluster : Cluster) (rest : List Cluster) :
    totalColumns (cluster :: rest) = cluster.columns + totalColumns rest := rfl

theorem totalColumns_append (front back : List Cluster) :
    totalColumns (front ++ back) = totalColumns front + totalColumns back := by
  induction front with
  | nil => exact (Nat.zero_add _).symm
  | cons cluster front ih =>
      rw [List.cons_append, totalColumns_cons, totalColumns_cons, ih, Nat.add_assoc]

theorem columns_append_space (front back : List Char) :
    columns (front ++ ' ' :: back) = columns front + 1 + columns back := by
  have single : (Cluster.ofChar ' ').columns = 1 := by decide
  rw [columns_eq_totalColumns, clusters_append_space, totalColumns_append, totalColumns_cons,
    single, ← columns_eq_totalColumns, ← columns_eq_totalColumns, Nat.add_assoc]

theorem columns_append_spaces (front : List Char) (count : Nat) :
    columns (front ++ List.replicate count ' ') = columns front + count := by
  induction count generalizing front with
  | zero => simp
  | succ count ih =>
      have rest := ih []
      rw [List.nil_append] at rest
      rw [List.replicate_succ, columns_append_space, rest]
      have none : columns [] = 0 := rfl
      omega

/-! ## Visible characters -/

/-- The characters of ASCII from the space to the tilde. -/
def IsVisible (letter : Char) : Prop := ' ' ≤ letter ∧ letter ≤ '~'

instance (letter : Char) : Decidable (IsVisible letter) :=
  inferInstanceAs (Decidable (_ ∧ _))

theorem Cluster.ofChar_of_isVisible {letter : Char} (visible : IsVisible letter) :
    ofChar letter = ⟨1, .plain, none⟩ := by
  have all : ∀ code < 95, ofChar (.ofNat (32 + code)) = ⟨1, .plain, none⟩ := by decide
  have low : 32 ≤ letter.toNat := visible.1
  have high : letter.toNat ≤ 126 := visible.2
  have own := all (letter.toNat - 32) (by omega)
  rwa [Nat.add_sub_cancel' low, Char.ofNat_toNat] at own

theorem clusters_of_isVisible {letters : List Char}
    (visible : ∀ letter ∈ letters, IsVisible letter) :
    clusters letters = letters.map fun _ => ⟨1, .plain, none⟩ := by
  induction letters with
  | nil => rfl
  | cons letter rest ih =>
      rcases List.forall_mem_cons.mp visible with ⟨first, others⟩
      have alone := Cluster.ofChar_of_isVisible first
      rw [clusters_cons, ih others, List.map_cons]
      cases rest with
      | nil => rw [List.map_nil, addToClusters, alone]
      | cons next rest =>
          rw [List.map_cons, addToClusters, Cluster.extend?_plain, alone]

theorem totalColumns_plain (letters : List Char) :
    totalColumns (letters.map fun _ => ⟨1, .plain, none⟩) = letters.length := by
  induction letters with
  | nil => rfl
  | cons letter rest ih => rw [List.map_cons, totalColumns_cons, ih, List.length_cons, Nat.add_comm]

/-- A visible text has as many columns as characters. -/
theorem width_of_isVisible {text : String} (visible : ∀ letter ∈ text.toList, IsVisible letter) :
    width text = text.length := by
  rw [width, columns_eq_totalColumns, clusters_of_isVisible visible, totalColumns_plain,
    String.length_toList]

end GuestImage.Text
