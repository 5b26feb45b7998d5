import MailRules.Location

/-!
# Places and byte counts

A place moves on by the bytes of the text that was read, so the offset of a place in a
source is the byte size of what stands before it.
-/

namespace MailRules

/-- The number of bytes of a piece of text. -/
def byteSize (text : List Char) : Nat := (String.ofList text).utf8ByteSize

@[simp] theorem byteSize_nil : byteSize [] = 0 := rfl

@[simp] theorem byteSize_cons (c : Char) (text : List Char) :
    byteSize (c :: text) = c.utf8Size + byteSize text := by
  simp [byteSize, String.ofList_cons]

@[simp] theorem byteSize_append (first second : List Char) :
    byteSize (first ++ second) = byteSize first + byteSize second := by
  simp [byteSize, String.ofList_append]

theorem byteSize_pos {text : List Char} (h : text ≠ []) : 0 < byteSize text := by
  cases text with
  | nil => exact absurd rfl h
  | cons c text =>
      have := c.utf8Size_pos
      rw [byteSize_cons]
      omega

namespace Location

theorem offset_advance (place : Location) (c : Char) :
    (place.advance c).offset = place.offset + c.utf8Size := by
  unfold advance
  split <;> rfl

theorem offset_after (place : Location) (text : List Char) :
    (place.after text).offset = place.offset + byteSize text := by
  induction text generalizing place with
  | nil => rfl
  | cons c text ih =>
      rw [after_cons, ih, offset_advance, byteSize_cons, Nat.add_assoc]

/-- The offset of a place is the byte size of what was read up to it. -/
theorem offset_start_after (text : List Char) : (start.after text).offset = byteSize text := by
  rw [offset_after]
  exact Nat.zero_add _

end Location
end MailRules
