/-
Selectors of processors and threads: a mask of 64 bits seen through a width. A selector reads from
hexadecimal text, lists the bits it sets below its width and shows them as a mask again.
-/
import DeviceBench.Failure

namespace DeviceBench

/-- A mask restricted to its lowest `width` bits. -/
structure Selector where
  mask : UInt64
  width : Nat
  width_le : width ≤ 64
  deriving DecidableEq, Repr

namespace Selector

/-- The selector of a mask and a width, refused when the width exceeds 64 bits. -/
def ofMask (mask : UInt64) (width : Nat) : Except Failure Selector :=
  if h : width ≤ 64 then .ok ⟨mask, width, h⟩
  else .error (.invalidMask ("0x" ++ Text.hexText mask.toNat) (.tooWide width))

/-- The digits of a mask: one leading `0x` or `0X` is left out. -/
def digits : List Char → List Char
  | '0' :: 'x' :: cs => cs
  | '0' :: 'X' :: cs => cs
  | cs => cs

/-- The selector that a hexadecimal text names. -/
def parse (mask : String) (width : Nat) : Except Failure Selector :=
  match Text.readUnsigned 16 Text.maxWord (digits mask.toList) with
  | .error fault => .error (.invalidMask mask (.numeral fault))
  | .ok value => ofMask (UInt64.ofNat value) width

/-- The word with one bit set. -/
def bit (index : Nat) : UInt64 := 1 <<< UInt64.ofNat index

/-- The mask without the bits at or above the width. The full width is apart: a word is not shifted
by all its bits. -/
def masked (s : Selector) : UInt64 := if 64 ≤ s.width then s.mask else s.mask &&& (bit s.width - 1)

/-- The set bits below the width, ascending. -/
def indices (s : Selector) : List Nat :=
  (List.range s.width).filter fun index => s.masked &&& bit index != 0

/-- How many of 64 bits are set in the masked value. -/
def count (s : Selector) : Nat := (List.range 64).countP (s.masked.toNat.testBit ·)

/-- The masked value in hexadecimal. -/
def display (s : Selector) : String := "0x" ++ Text.hexText s.masked.toNat

end Selector

end DeviceBench
