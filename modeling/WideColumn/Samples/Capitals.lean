import WideColumn.Codec.Basic

/-!
# Sample: texts in capitals

A codec of the kind that a program brings along: it stores texts with their ASCII letters in
capitals and gives them back in lower case.

* `WideColumn.Samples.capitals`: the codec.
-/

namespace WideColumn

namespace Samples

/-- The capital of a small ASCII letter; any other character is left alone. -/
def upperAscii (c : Char) : Char :=
  if 'a' ≤ c ∧ c ≤ 'z' then Char.ofNat (c.toNat - 32) else c

/-- The error of data that are no text. -/
def notText : CodecError :=
  .invalidData (.refused "not text")

/-- The codec that stores texts in capitals. -/
def capitals : CustomCodec where
  name := "Upper"
  columnType := .scalar .text
  appType := .primitive .string
  encode
    | .text s => .ok (Utf8.encode (s.toList.map upperAscii))
    | _ => .error notText
  decode bs :=
    match Utf8.decode bs with
    | .ok cs => .ok (.text (String.ofList (cs.map Text.lowerAscii)))
    | .error _ => .error notText

end Samples

end WideColumn
