import GuestImage.Proofs.Text.Bytes
import GuestImage.Proofs.Text.Span
import GuestImage.StepKey

/-!
# Messages of step keys

The bytes that are digested for a step are not framed, yet they determine the key before it, the
kind of its command and its argument: a key holds no zero byte, the first zero byte ends it, the
names of the kinds differ in their first letter, and a fingerprint has four bytes.
-/

namespace GuestImage.StepKey

/-- The form of a key: the algorithm and 64 lower-case hexadecimal digits. -/
def IsKey (key : String) : Prop :=
  ∃ digits : String, key = "sha256:" ++ digits ∧ digits.toList.length = 64 ∧
    ∀ digit ∈ digits.toList, digit ∈ Text.hexDigits

/-- A key cut short has the algorithm and the first 12 digits. -/
theorem IsKey.short_eq {key : String} (isKey : IsKey key) :
    short key = String.ofList (key.toList.take 19) := by
  rcases isKey with ⟨digits, rfl, -, -⟩
  have letters : ("sha256:" ++ digits).toList =
      's' :: 'h' :: 'a' :: '2' :: '5' :: '6' :: ':' :: digits.toList := by
    rw [String.toList_append]
    rfl
  rw [short, letters]
  rfl

theorem isKey_of (parent : Option String) (command : Command) : IsKey (of parent command) :=
  ⟨_, rfl, by simp, fun _ member => Text.mem_hexDigits member⟩

theorem isKey_of_mem_chain {parent : Option String} {commands : List Command} {key : String}
    (member : key ∈ chain parent commands) : IsKey key := by
  induction commands generalizing parent with
  | nil => cases member
  | cons command rest ih =>
      rcases List.mem_cons.mp member with rfl | later
      · exact isKey_of parent command
      · exact ih later

theorem isKey_of_getLast?_all {recipe : Recipe} {key : String}
    (last : (all recipe).getLast? = some key) : IsKey key :=
  isKey_of_mem_chain (List.mem_of_getLast? last)

theorem IsKey.ne_empty {key : String} (isKey : IsKey key) : key ≠ "" := by
  rcases isKey with ⟨digits, rfl, -, -⟩
  intro empty
  have letters := congrArg String.toList empty
  simp at letters

theorem IsKey.zero_not_mem {key : String} (isKey : IsKey key) : 0 ∉ Text.bytes key := by
  rcases isKey with ⟨digits, rfl, -, hexadecimal⟩
  rw [Text.bytes_append, List.mem_append, not_or]
  constructor
  · decide
  · intro member
    rcases List.mem_flatMap.mp member with ⟨letter, digit, zero⟩
    have none : Text.hexDigits.all fun letter => 0 ∉ String.utf8EncodeChar letter := by decide
    have absent := List.all_eq_true.mp none letter (hexadecimal letter digit)
    exact of_decide_eq_true absent zero

/-! ## Reading a message back -/

/-- The keys that a step may stand on: none, or one with the form of a key. -/
def IsParent (parent : Option String) : Prop :=
  ∀ key ∈ parent, IsKey key

theorem IsParent.zero_not_mem {parent : Option String} (isParent : IsParent parent) :
    0 ∉ Text.bytes (parent.getD "") := by
  cases parent with
  | none => decide
  | some key => exact (isParent key rfl).zero_not_mem

/-- An absent key is not mistaken for a key. -/
theorem IsParent.getD_injective {first second : Option String} (isFirst : IsParent first)
    (isSecond : IsParent second) (same : first.getD "" = second.getD "") : first = second := by
  cases first with
  | none =>
      cases second with
      | none => rfl
      | some key => exact absurd same.symm (isSecond key rfl).ne_empty
  | some key =>
      cases second with
      | none => exact absurd same (isFirst key rfl).ne_empty
      | some other => exact congrArg some same

/-- No name of a kind starts like another one. -/
theorem kind_eq_of_names {first second : CommandKind} {left right : List UInt8}
    (same : Text.bytes first.name ++ left = Text.bytes second.name ++ right) : first = second := by
  have initial (kind : CommandKind) (rest : List UInt8) :
      (Text.bytes kind.name ++ rest).head? = (Text.bytes kind.name).head? := by
    cases kind <;> rfl
  have heads := congrArg List.head? same
  rw [initial, initial] at heads
  revert heads
  cases first <;> cases second <;> decide

theorem message_injective {firstParent secondParent : Option String} {first second : Command}
    (isFirst : IsParent firstParent) (isSecond : IsParent secondParent)
    (same : message firstParent first = message secondParent second) :
    firstParent = secondParent ∧ first.kind = second.kind ∧ first.value = second.value := by
  simp only [message, List.append_assoc, List.cons_append] at same
  rcases Text.append_cons_inj isFirst.zero_not_mem isSecond.zero_not_mem same with
    ⟨parents, framed⟩
  have kinds := kind_eq_of_names framed
  rw [kinds] at framed
  have printed := List.append_cancel_left framed
  have values := (List.append_inj printed rfl).2
  exact ⟨isFirst.getD_injective isSecond (Text.bytes_injective parents), kinds,
    Text.bytes_injective values⟩

end GuestImage.StepKey
