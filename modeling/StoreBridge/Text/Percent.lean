import StoreBridge.Bytes.Hex

/-!
# Percent encoding

A character that may not stand in some part of a URL is written as its UTF-8 bytes, each as a
percent sign and two digits. `percentEncode` is told which ASCII characters may stand; characters
beyond ASCII never may.
-/

namespace StoreBridge

/-- A byte as a percent sign and two hexadecimal digits in upper case. -/
def percentByte (b : UInt8) : List Char :=
  '%' :: (Bytes.hexOfByte b).map Char.toUpper

/-- Writes one character. -/
def percentChar (keep : Char → Bool) (c : Char) : List Char :=
  if c.toNat < 0x80 ∧ keep c then [c]
  else (Bytes.ofText (String.singleton c)).flatMap percentByte

/-- Writes a text; `keep` holds of the ASCII characters that stand for themselves. -/
def percentEncode (keep : Char → Bool) (cs : List Char) : List Char :=
  cs.flatMap (percentChar keep)

/-- The bytes a text stands for; a percent sign without two digits stands for itself. -/
def percentDecode : List Char → Bytes
  | [] => []
  | c :: cs =>
    let own := Bytes.ofText (String.singleton c)
    if c = '%' then
      match cs with
      -- The two characters are part of the escape only if they are digits.
      | a :: b :: rest =>
        match hexValue? a, hexValue? b with
        | some high, some low => UInt8.ofNat (16 * high + low) :: percentDecode rest
        | _, _ => own ++ percentDecode (a :: b :: rest)
      | rest => own ++ percentDecode rest
    else own ++ percentDecode cs
termination_by cs => cs.length

end StoreBridge
