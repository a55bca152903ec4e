/-! # Lengths in bytes

How many bytes a text takes in UTF-8, and the characters at its ends that fit in a number of bytes.
For characters of one byte these are the usual lengths and ends. -/
set_option autoImplicit false

namespace CardPayments.Text

def byteLength : List Char → Nat
  | [] => 0
  | c :: rest => c.utf8Size + byteLength rest

/-- The characters in front that fit in `room` bytes. -/
def leading (room : Nat) : List Char → List Char
  | [] => []
  | c :: rest => if c.utf8Size ≤ room then c :: leading (room - c.utf8Size) rest else []

def trailing (room : Nat) (s : List Char) : List Char := (leading room s.reverse).reverse

theorem byteLength_of_single (s : List Char) (single : ∀ c ∈ s, c.utf8Size = 1) :
    byteLength s = s.length := by
  induction s with
  | nil => rfl
  | cons c rest ih =>
      have first : c.utf8Size = 1 := single c (by simp)
      have others : byteLength rest = rest.length := ih fun d inRest => single d (by simp [inRest])
      simp only [byteLength, first, others, List.length_cons]
      omega

theorem leading_of_single (room : Nat) (s : List Char) (single : ∀ c ∈ s, c.utf8Size = 1) :
    leading room s = s.take room := by
  induction s generalizing room with
  | nil => simp [leading]
  | cons c rest ih =>
      have first : c.utf8Size = 1 := single c (by simp)
      have others := ih (room - 1) fun d inRest => single d (by simp [inRest])
      cases room with
      | zero => simp [leading, first]
      | succ room =>
          have fits : 1 ≤ room + 1 := by omega
          simp only [leading, first, if_pos fits, List.take_succ_cons]
          rw [others]
          rfl

theorem trailing_of_single (room : Nat) (s : List Char) (single : ∀ c ∈ s, c.utf8Size = 1) :
    trailing room s = s.drop (s.length - room) := by
  have reversed : leading room s.reverse = s.reverse.take room :=
    leading_of_single room s.reverse fun c inReverse => single c (by simpa using inReverse)
  simp only [trailing, reversed, List.take_reverse, List.reverse_reverse]

end CardPayments.Text
