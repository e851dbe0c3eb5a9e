import Mathlib
import WideColumn.Codec.Basic
import WideColumn.Proofs.Codec.Frame

/-!
# Collections as bytes

What the frames of `WideColumn.Proofs.Codec.Frame` mean for the codecs of collections, in both
directions and for any codecs of the parts.

* `WideColumn.Codec.decode_list_eq_ok_iff`, `WideColumn.Codec.decode_set_eq_ok_iff`,
  `WideColumn.Codec.decode_map_eq_ok_iff`: the bytes a collection is decoded from;
* `WideColumn.Codec.encode_list_eq_ok_iff`, `WideColumn.Codec.encode_set_eq_ok_iff`,
  `WideColumn.Codec.encode_map_eq_ok_iff`: the values a collection is encoded from, and its bytes.
-/

namespace WideColumn

open Framing

namespace Codec

variable {e k u : Codec} {bs : Bytes} {v : Value}

/-! ### Decoding -/

theorem decode_list_eq_ok_iff :
    (list e).decode bs = .ok v ↔ ∃ vs, IsElements e.decode bs vs ∧ .list vs = v := by
  rw [decode, Except.map_eq_ok_iff]
  simp only [readElements_eq_ok_iff]

theorem decode_set_eq_ok_iff :
    (set e).decode bs = .ok v ↔ ∃ vs, IsElements e.decode bs vs ∧ .set vs = v := by
  rw [decode, Except.map_eq_ok_iff]
  simp only [readElements_eq_ok_iff]

theorem decode_map_eq_ok_iff :
    (map k u).decode bs = .ok v ↔ ∃ es, IsEntries k.decode u.decode bs es ∧ .map es = v := by
  rw [decode, Except.map_eq_ok_iff]
  simp only [readEntries_eq_ok_iff]

/-! ### Encoding -/

theorem encode_list_eq_ok_iff : (list e).encode v = .ok bs ↔
    ∃ vs, (∃ parts, IsFrame bs parts.length parts ∧
      List.Forall₂ (fun part v => v ≠ .null ∧ e.encode v = .ok part) parts vs) ∧ .list vs = v := by
  simp only [← @writeElements_eq_ok_iff .list]
  cases v with
  | list vs => simp [encode]
  | _ => simp [encode]

/-- A set may be given as a list. -/
theorem encode_set_eq_ok_iff : (set e).encode v = .ok bs ↔
    ∃ vs, (∃ parts, IsFrame bs parts.length parts ∧
      List.Forall₂ (fun part v => v ≠ .null ∧ e.encode v = .ok part) parts vs) ∧
      (.set vs = v ∨ .list vs = v) := by
  simp only [← @writeElements_eq_ok_iff .set]
  cases v with
  | set vs => simp [encode]
  | list vs => simp [encode]
  | _ => simp [encode]

theorem encode_map_eq_ok_iff : (map k u).encode v = .ok bs ↔
    ∃ es, (∃ pairs, IsFrame bs pairs.length (alternating pairs) ∧
      List.Forall₂ (fun p e => (e.1 ≠ .null ∧ k.encode e.1 = .ok p.1) ∧
        e.2 ≠ .null ∧ u.encode e.2 = .ok p.2) pairs es) ∧ .map es = v := by
  simp only [← writeEntries_eq_ok_iff]
  cases v with
  | map es => simp [encode]
  | _ => simp [encode]

end Codec

end WideColumn
