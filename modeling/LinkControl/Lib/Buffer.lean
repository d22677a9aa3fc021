import Mathlib.Data.List.Basic
import Mathlib.Data.Option.Basic

/-!
# Buffers

A block of memory with a C string in it. The string fits, with its terminator: a `Buffer` with
another string cannot be built, and a write that would leave one is a write out of bounds,
which gives `none`.

Every operation is a `write` of a whole string: a string that is written in two parts is in
bounds if the whole is (`write_bind_strcat`), and so is one behind which the block has grown
enough (`realloc_bind_strcat`).
-/

namespace CBuffer

variable {α : Type*}

/-- `size` characters, with `contents` and a terminator in them. -/
structure Buffer (α : Type*) where
  size : Nat
  contents : List α
  fits : contents.length < size

/-- `strcpy ()` or `sprintf ()` into a block; `none` if it writes out of bounds. -/
def write (size : Nat) (text : List α) : Option (Buffer α) :=
  if h : text.length < size then some ⟨size, text, h⟩ else none

/-- `strcat (b, text)` -/
def strcat (text : List α) (b : Buffer α) : Option (Buffer α) := write b.size (b.contents ++ text)

/-- `realloc (b, size)`; `none` if it cuts the string off, so that its end is not found. -/
def realloc (size : Nat) (b : Buffer α) : Option (Buffer α) := write size b.contents

variable {size : Nat} {text more : List α} {b : Buffer α}

/-- A text that leaves room for its terminator can be written, -/
theorem write_of_lt (h : text.length < size) : write size text = some ⟨size, text, h⟩ := dif_pos h

/-- and no other. -/
theorem write_eq_none (h : ¬ text.length < size) : write size text = none := dif_neg h

/-- Writing a string in two parts. -/
theorem write_bind_strcat : (write size text).bind (strcat more) = write size (text ++ more) := by
  by_cases h : text.length < size
  · rw [write_of_lt h]
    rfl
  · have hMore : ¬ (text ++ more).length < size := by
      rw [List.length_append]
      omega
    rw [write_eq_none h, write_eq_none hMore]
    rfl

/-- A block that has grown enough has room for more. -/
theorem realloc_bind_strcat (h : b.contents.length + more.length < size) :
    (realloc size b).bind (strcat more) =
      some ⟨size, b.contents ++ more, by rwa [List.length_append]⟩ := by
  have hRoom : (b.contents ++ more).length < size := by rwa [List.length_append]
  rw [realloc, write_bind_strcat, write_of_lt hRoom]

/-- A text is appended if there is room for it and the terminator. -/
theorem strcat_of_lt (h : b.contents.length + more.length < b.size) :
    strcat more b = some ⟨b.size, b.contents ++ more, by rwa [List.length_append]⟩ := by
  have hRoom : (b.contents ++ more).length < b.size := by rwa [List.length_append]
  rw [strcat, write_of_lt hRoom]

end CBuffer
