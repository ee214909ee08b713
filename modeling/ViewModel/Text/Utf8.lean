import ViewModel.Text.Quoted

/-!
# Texts as bytes

Texts are stored as UTF-8. Bytes that are no such text are refused at the first byte that begins no
character, with the bytes that belong to the fault. A text that is read has one kind of line end.

* `length_of_continuation`: what follows the bytes of a character is no longer than what was read;
* `decode_encode_of_ascii`: a text of plain characters is read as it was written.
-/

namespace ViewModel.Text.Utf8

def encode (text : String) : List UInt8 := text.toUTF8.data.toList

inductive Reason
  | invalidStart
  | invalidContinuation
  | truncated
  deriving DecidableEq, Repr

def Reason.message : Reason → String
  | invalidStart => "invalid start byte"
  | invalidContinuation => "invalid continuation byte"
  | truncated => "unexpected end of data"

/-- Bytes that begin no character: the first of them, where it stands, and how many there are. -/
structure Fault where
  reason : Reason
  first : UInt8
  start : Nat
  count : Nat
  deriving DecidableEq, Repr

def Fault.message (fault : Fault) : String :=
  let place := if fault.count = 1 then
      "byte 0x" ++ String.ofList (hex 2 fault.first.toNat) ++ " in position " ++ toString fault.start
    else
      "bytes in position " ++ toString fault.start ++ "-" ++ toString (fault.start + fault.count - 1)
  "'utf-8' codec can't decode " ++ place ++ ": " ++ fault.reason.message

/-- What the first byte of a character of several announces: its own bits, how many bytes follow, and
the range of the first of them. The ranges leave out what has a shorter form and what is no character. -/
structure Lead where
  bits : Nat
  following : Nat
  low : UInt8 := 0x80
  high : UInt8 := 0xbf

def lead? (first : UInt8) : Option Lead :=
  let n := first.toNat
  if 0xc2 ≤ n && n ≤ 0xdf then some { bits := n - 0xc0, following := 1 }
  else if n = 0xe0 then some { bits := 0, following := 2, low := 0xa0 }
  else if n = 0xed then some { bits := 0xd, following := 2, high := 0x9f }
  else if 0xe1 ≤ n && n ≤ 0xef then some { bits := n - 0xe0, following := 2 }
  else if n = 0xf0 then some { bits := 0, following := 3, low := 0x90 }
  else if n = 0xf4 then some { bits := 4, following := 3, high := 0x8f }
  else if 0xf1 ≤ n && n ≤ 0xf3 then some { bits := n - 0xf0, following := 3 }
  else none

/-- The number of a character whose first bytes stand for `bits`, and the bytes after it; or what is
wrong, with how many bytes were read. -/
def continuation (bits read : Nat) (low high : UInt8) :
    Nat → List UInt8 → Except (Reason × Nat) (Nat × List UInt8)
  | 0, rest => .ok (bits, rest)
  | _ + 1, [] => .error (.truncated, read)
  | following + 1, byte :: rest =>
    if low ≤ byte && byte ≤ high then
      continuation (bits * 64 + (byte.toNat - 0x80)) (read + 1) 0x80 0xbf following rest
    else .error (.invalidContinuation, read)

theorem length_of_continuation {bits read following number : Nat} {low high : UInt8}
    {bytes rest : List UInt8}
    (found : continuation bits read low high following bytes = .ok (number, rest)) :
    rest.length ≤ bytes.length := by
  induction following generalizing bits read low high bytes with
  | zero => simp [continuation] at found; simp [found]
  | succ following ih =>
    cases bytes with
    | nil => simp [continuation] at found
    | cons byte tail =>
      simp only [continuation] at found
      split at found
      · exact Nat.le_succ_of_le (ih found)
      · simp at found

/-- The first character of some bytes, and the bytes after it. -/
def next (first : UInt8) (rest : List UInt8) : Except (Reason × Nat) (Nat × List UInt8) :=
  if first < 0x80 then .ok (first.toNat, rest)
  else
    match lead? first with
    | none => .error (.invalidStart, 1)
    | some lead => continuation lead.bits 1 lead.low lead.high lead.following rest

theorem length_of_next {first : UInt8} {number : Nat} {bytes rest : List UInt8}
    (found : next first bytes = .ok (number, rest)) : rest.length ≤ bytes.length := by
  unfold next at found
  split at found
  · simp at found; simp [found]
  · split at found
    · simp at found
    · exact length_of_continuation found

/-- The characters of some bytes that stand after `position` others, after those already decoded, last
one first. -/
def decodeOnto (decoded : List Char) (position : Nat) (bytes : List UInt8) : Except Fault (List Char) :=
  match bytes with
  | [] => .ok decoded.reverse
  | first :: rest =>
    match found : next first rest with
    | .ok (number, after) =>
      decodeOnto (Char.ofNat number :: decoded) (position + 1 + (rest.length - after.length)) after
    | .error (reason, count) => .error ⟨reason, first, position, count⟩
termination_by bytes.length
decreasing_by
  have := length_of_next found
  simp only [List.length_cons]
  omega

/-- The characters with every line end as a line feed. -/
def unifyLineEnds : List Char → List Char
  | [] => []
  | '\r' :: '\n' :: rest => '\n' :: unifyLineEnds rest
  | c :: rest => (if c = '\r' then '\n' else c) :: unifyLineEnds rest

def decode (bytes : List UInt8) : Except Fault String :=
  (decodeOnto [] 0 bytes).map fun chars => String.ofList (unifyLineEnds chars)

/-! ## Texts of seven bits -/

/-- A character of seven bits is a byte of its own. -/
theorem encode_of_ascii {text : String} (ascii : ∀ c ∈ text.toList, c.toNat < 128) :
    encode text = text.toList.map fun c => c.val.toUInt8 := by
  have each (chars : List Char) (ascii : ∀ c ∈ chars, c.toNat < 128) :
      chars.flatMap String.utf8EncodeChar = chars.map fun c => c.val.toUInt8 := by
    induction chars with
    | nil => rfl
    | cons c rest ih =>
      obtain ⟨here, there⟩ := List.forall_mem_cons.1 ascii
      have single : c.utf8Size = 1 := Char.utf8Size_eq_one_iff.2 (UInt32.le_iff_toNat_le.2 (Nat.le_of_lt_succ here))
      rw [List.flatMap_cons, String.utf8EncodeChar_eq_singleton single, ih there]
      rfl
  have whole : text.toUTF8 = text.toList.utf8Encode := String.utf8Encode_toList.symm
  rw [encode, whole, List.utf8Encode, List.data_toByteArray, each _ ascii]

theorem decodeOnto_of_ascii {chars : List Char} (ascii : ∀ c ∈ chars, c.toNat < 128) (decoded : List Char)
    (position : Nat) :
    decodeOnto decoded position (chars.map fun c => c.val.toUInt8) = .ok (decoded.reverse ++ chars) := by
  induction chars generalizing decoded position with
  | nil => simp [decodeOnto]
  | cons c rest ih =>
    obtain ⟨here, there⟩ := List.forall_mem_cons.1 ascii
    have kept : c.val.toUInt8.toNat = c.toNat := by
      rw [UInt32.toNat_toUInt8]
      exact Nat.mod_eq_of_lt (Nat.lt_trans here (by decide))
    have read : next c.val.toUInt8 (rest.map fun c => c.val.toUInt8) =
        .ok (c.toNat, rest.map fun c => c.val.toUInt8) := by
      rw [next, if_pos (UInt8.lt_iff_toNat_lt.2 (kept ▸ here)), kept]
    rw [List.map_cons, decodeOnto]
    split
    · rename_i found
      rw [read] at found
      cases found
      rw [ih there, Char.ofNat_toNat]
      simp
    · rename_i found
      rw [read] at found
      cases found

theorem unifyLineEnds_of_not_mem {chars : List Char} (plain : '\r' ∉ chars) : unifyLineEnds chars = chars := by
  induction chars with
  | nil => rfl
  | cons c rest ih =>
    obtain ⟨here, there⟩ := List.ne_and_not_mem_of_not_mem_cons plain
    rw [unifyLineEnds, ih there, if_neg here.symm]
    · intro _ same _
      exact here same.symm

/-- What is written is read again, if it has characters of seven bits only and one kind of line end. -/
theorem decode_encode_of_ascii {text : String} (seven : text.toList.all (·.toNat < 128) = true)
    (plain : '\r' ∉ text.toList) : decode (encode text) = .ok text := by
  have ascii : ∀ c ∈ text.toList, c.toNat < 128 := fun c mem => of_decide_eq_true (List.all_eq_true.1 seven c mem)
  rw [decode, encode_of_ascii ascii, decodeOnto_of_ascii ascii]
  change Except.ok (String.ofList (unifyLineEnds text.toList)) = _
  rw [unifyLineEnds_of_not_mem plain, String.ofList_toList]

end ViewModel.Text.Utf8
