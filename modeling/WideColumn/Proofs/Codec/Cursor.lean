import Mathlib
import WideColumn.Proofs.Codec.Collection

/-!
# Reading in place

The readers of collections hand on the bytes that follow. A reader that works in place hands on
nothing: it keeps the whole buffer and a position in it, compares what it is asked for with what
remains, and then takes a slice. Nothing but this comparison keeps the slice inside the buffer, and
the sizes it is asked for are those the bytes themselves claim.

Here such a reader is written down, with a slice that is *not defined* where it reaches outside
(`WideColumn.Cursor.slice`), so that one bad read leaves the whole run without a result. It is
shown to have a result always, and the one that is already known:

* `WideColumn.Cursor.Follows`: what is kept from step to step, namely that the position stays in
  the buffer and that the bytes behind it are those which the other reader hands on;
* `WideColumn.Cursor.decode_eq_some`: **decoding in place never reads outside the buffer**, at any
  depth of any codec, and its result is `WideColumn.Codec.decode`;
* `WideColumn.Cursor.decode_collection_iff_framed`: which bytes of collections it accepts.
-/

namespace WideColumn

/-- A position in a buffer. -/
structure Cursor where
  /-- All the bytes. -/
  buffer : Bytes
  /-- How many of them have been read. -/
  offset : Nat

namespace Cursor

variable {α β : Type}

/-! ### The reader -/

/-- A computation with a cursor. It has no result if a slice reaches outside its buffer; if it has
one, this is an error or a value with the cursor's new position. -/
abbrev Run := StateT Cursor (ExceptT CodecError Option)

/-- The bytes at a position, **if all of them lie in the buffer**. -/
def slice (bs : Bytes) (start count : Nat) : Option Bytes :=
  if start + count ≤ bs.length then some ((bs.drop start).take count) else none

/-- How many bytes have not been read. -/
def remaining (c : Cursor) : Nat :=
  c.buffer.length - c.offset

/-- The next bytes, in a given number. -/
def readBytes (count : Nat) : Run Bytes := do
  let c ← get
  if c.remaining < count then throw (.bufferTooSmall count c.remaining)
  else
    let part ← (slice c.buffer c.offset count : Option Bytes)
    set { c with offset := c.offset + count }
    return part

/-- The next four bytes as a signed number. -/
def readInt : Run Int32 := do
  let word ← readBytes 4
  return (UInt32.ofNat (Bytes.toNat word)).toInt32

/-- The count of elements. -/
def readCount : Run Nat := do
  let n ← readInt
  if n.toInt < 0 then throw (.invalidData (.negativeCount n)) else return n.toInt.toNat

/-- The next part. -/
def readPart (kind : CollectionKind) (decode : Bytes → ExceptT CodecError Option α) : Run α := do
  let length ← readInt
  if length.toInt < 0 then throw (.nullElement kind)
  else
    let part ← readBytes length.toInt.toNat
    decode part

/-- The next items, in a given number. -/
def readMany (readItem : Run α) : (count : Nat) → Run (List α)
  | 0 => return []
  | count + 1 => do
    let a ← readItem
    let as ← readMany readItem count
    return a :: as

/-- The next key and its value. -/
def readPair (decodeKey : Bytes → ExceptT CodecError Option α)
    (decodeValue : Bytes → ExceptT CodecError Option β) : Run (α × β) := do
  let k ← readPart .map decodeKey
  let v ← readPart .map decodeValue
  return (k, v)

/-- Nothing may remain. -/
def readEnd (kind : CollectionKind) : Run Unit := do
  let c ← get
  if c.remaining = 0 then return () else throw (.trailingBytes kind c.remaining)

/-- The items of a collection, which fill the buffer. -/
def readWhole (kind : CollectionKind) (readItem : Run α) (bs : Bytes) :
    ExceptT CodecError Option (List α) :=
  if bs.isEmpty then return []
  else
    StateT.run' (do
      let count ← readCount
      let as ← readMany readItem count
      readEnd kind
      return as) ⟨bs, 0⟩

/-- The value of bytes, read in place; the parts of a collection are buffers of their own. -/
def decode : Codec → Bytes → ExceptT CodecError Option Value
  | .scalar k, bs => ExceptT.mk (some (k.decode bs))
  | .list e, bs => .list <$> readWhole .list (readPart .list (decode e)) bs
  | .set e, bs => .set <$> readWhole .set (readPart .set (decode e)) bs
  | .map k v, bs => .map <$> readWhole .map (readPair (decode k) (decode v)) bs
  | .custom c, bs => ExceptT.mk (some (c.decode bs))

/-! ### What is kept from step to step -/

/-- The bytes that have not been read. -/
def rest (c : Cursor) : Bytes :=
  c.buffer.drop c.offset

/-- The position is in the buffer, or at its end. -/
def Within (c : Cursor) : Prop :=
  c.offset ≤ c.buffer.length

/-- **One reader follows another** if it always has a result: the same error, or the same value
with a position, in the same buffer, behind which the bytes are those the other hands on. -/
def Follows (m : Run α) (f : Bytes → Except CodecError (α × Bytes)) : Prop :=
  ∀ c : Cursor, c.Within →
    (∃ a c', m c = some (.ok (a, c')) ∧ f c.rest = .ok (a, c'.rest) ∧
      c'.buffer = c.buffer ∧ c'.Within) ∨
    ∃ e, m c = some (.error e) ∧ f c.rest = .error e

theorem remaining_eq_length_rest (c : Cursor) : c.remaining = c.rest.length :=
  List.length_drop.symm

theorem follows_pure (a : α) : Follows (pure a) fun bs => pure (a, bs) :=
  fun c hc => Or.inl ⟨a, c, rfl, rfl, rfl, hc⟩

theorem follows_throw (e : CodecError) : Follows (α := α) (throw e) fun _ => .error e :=
  fun _ _ => Or.inr ⟨e, rfl, rfl⟩

/-- What needs no cursor leaves it where it is. -/
theorem follows_liftM {x : ExceptT CodecError Option α} {y : Except CodecError α}
    (hx : x = some y) : Follows (liftM x) fun bs => y >>= fun a => pure (a, bs) := by
  intro c hc
  have hrun : (liftM x : Run α) c = ExceptT.bind x fun a => pure (a, c) := rfl
  rw [hrun, hx]
  cases y with
  | ok a => exact Or.inl ⟨a, c, rfl, rfl, rfl, hc⟩
  | error e => exact Or.inr ⟨e, rfl, rfl⟩

/-- **What follows step by step follows as a whole.** -/
theorem Follows.bind {m : Run α} {f : Bytes → Except CodecError (α × Bytes)} {k : α → Run β}
    {g : α → Bytes → Except CodecError (β × Bytes)} (hm : Follows m f)
    (hk : ∀ a, Follows (k a) (g a)) : Follows (m >>= k) fun bs => f bs >>= fun p => g p.1 p.2 := by
  intro c hc
  have hrun : (m >>= k) c = ExceptT.bind (m c) fun p => k p.1 p.2 := rfl
  rcases hm c hc with ⟨a, c', hma, hf, hbuffer, hc'⟩ | ⟨e, hme, hf⟩
  · rw [hrun, hma]
    simp only [hf]
    rcases hk a c' hc' with ⟨b, c'', hkb, hg, hbuffer', hc''⟩ | ⟨e, hke, hg⟩
    · exact Or.inl ⟨b, c'', hkb, hg, hbuffer'.trans hbuffer, hc''⟩
    · exact Or.inr ⟨e, hke, hg⟩
  · rw [hrun, hme]
    simp only [hf]
    exact Or.inr ⟨e, rfl, rfl⟩

/-- **A run from the first byte on has a result**, and its value is the other reader's. -/
theorem Follows.run' {m : Run α} {f : Bytes → Except CodecError (α × Bytes)} (hm : Follows m f)
    (bs : Bytes) : StateT.run' m ⟨bs, 0⟩ = some (Prod.fst <$> f bs) := by
  change ExceptT.map _ (_ : ExceptT CodecError Option (α × Cursor)) = _
  -- at the beginning nothing has been read, and all the bytes are the rest
  rcases hm ⟨bs, 0⟩ (Nat.zero_le _) with ⟨a, c, hrun, hf, -⟩ | ⟨e, hrun, hf⟩
  · rw [hrun]
    exact congrArg (some <| Prod.fst <$> ·) hf.symm
  · rw [hrun]
    exact congrArg (some <| Prod.fst <$> ·) hf.symm

/-! ### Every step follows -/

theorem follows_readBytes (count : Nat) : Follows (readBytes count) (Framing.readBytes count) := by
  intro c hc
  have hremaining := c.remaining_eq_length_rest
  unfold readBytes Framing.readBytes
  by_cases hcount : c.remaining < count
  · refine Or.inr ⟨.bufferTooSmall count c.remaining, ?_, ?_⟩
    · change (if c.remaining < count then _ else _ : Run Bytes) c = _
      rw [if_pos hcount]
      rfl
    · rw [if_neg (by omega), hremaining]
  · -- what was compared with the rest lies in the buffer
    have hslice : c.offset + count ≤ c.buffer.length := by
      have hwithin : c.offset ≤ c.buffer.length := hc
      rw [remaining] at hcount
      omega
    refine Or.inl ⟨(c.buffer.drop c.offset).take count, ⟨c.buffer, c.offset + count⟩, ?_, ?_, rfl,
      hslice⟩
    · change (if c.remaining < count then _ else _ : Run Bytes) c = _
      rw [if_neg hcount, slice, if_pos hslice]
      rfl
    · rw [if_pos (by omega), rest, rest, List.drop_drop]

theorem follows_readInt : Follows readInt Framing.readInt :=
  (follows_readBytes 4).bind fun _ => follows_pure _

theorem follows_readCount : Follows readCount Framing.readCount := by
  refine follows_readInt.bind (g := fun n bs => if n.toInt < 0 then
    .error (.invalidData (.negativeCount n)) else pure (n.toInt.toNat, bs)) fun n => ?_
  by_cases hsign : n.toInt < 0
  · simp only [if_pos hsign]
    exact follows_throw _
  · simp only [if_neg hsign]
    exact follows_pure _

variable {kind : CollectionKind}

/-- **A part is read in place** if its decoding has a result. -/
theorem follows_readPart {decode : Bytes → ExceptT CodecError Option α}
    {f : Bytes → Except CodecError α} (hdecode : ∀ bs, decode bs = some (f bs)) :
    Follows (readPart kind decode) (Framing.readPart kind f) := by
  refine follows_readInt.bind (g := fun (length : Int32) bs => if length.toInt < 0 then
    .error (.nullElement kind) else Framing.readBytes length.toInt.toNat bs >>= fun p =>
      f p.1 >>= fun a => pure (a, p.2)) fun length => ?_
  by_cases hsign : length.toInt < 0
  · simp only [if_pos hsign]
    exact follows_throw _
  · simp only [if_neg hsign]
    exact (follows_readBytes _).bind (g := fun part bs => f part >>= fun a => pure (a, bs))
      fun part => follows_liftM (hdecode part)

theorem follows_readPair {decodeKey : Bytes → ExceptT CodecError Option α}
    {decodeValue : Bytes → ExceptT CodecError Option β} {f : Bytes → Except CodecError α}
    {g : Bytes → Except CodecError β} (hkey : ∀ bs, decodeKey bs = some (f bs))
    (hvalue : ∀ bs, decodeValue bs = some (g bs)) :
    Follows (readPair decodeKey decodeValue) (Framing.readPair f g) :=
  (follows_readPart hkey).bind
    (g := fun k bs => Framing.readPart .map g bs >>= fun p => pure ((k, p.1), p.2)) fun _ =>
      (follows_readPart hvalue).bind fun _ => follows_pure _

/-- **Many items are read in place** if one is. -/
theorem follows_readMany {readItem : Run α} {f : Bytes → Except CodecError (α × Bytes)}
    (hitem : Follows readItem f) (count : Nat) :
    Follows (readMany readItem count) (Framing.readMany f count) := by
  induction count with
  | zero => exact follows_pure []
  | succ count ih =>
    exact hitem.bind
      (g := fun a bs => Framing.readMany f count bs >>= fun p => pure (a :: p.1, p.2)) fun _ =>
        ih.bind fun _ => follows_pure _

theorem follows_readEnd (kind : CollectionKind) :
    Follows (readEnd kind) fun bs => (Framing.readEnd kind bs).map fun u => (u, bs) := by
  intro c hc
  have hremaining := c.remaining_eq_length_rest
  have hrun : readEnd kind c = (if c.remaining = 0 then (pure () : Run Unit)
      else throw (.trailingBytes kind c.remaining)) c := rfl
  rw [hrun]
  unfold Framing.readEnd
  by_cases hend : c.remaining = 0
  · have hnil : c.rest.isEmpty = true := List.isEmpty_iff_length_eq_zero.mpr (by omega)
    rw [if_pos hend]
    simp only [if_pos hnil]
    exact Or.inl ⟨(), c, rfl, rfl, rfl, hc⟩
  · have hne : ¬c.rest.isEmpty = true := by
      rw [List.isEmpty_iff_length_eq_zero]
      omega
    rw [if_neg hend, hremaining]
    simp only [if_neg hne]
    exact Or.inr ⟨_, rfl, rfl⟩

/-! ### The whole -/

/-- **A collection is read in place** if each item is: from the first byte on, the run has a
result, and it is the other reader's. -/
theorem readWhole_eq_some {readItem : Run α} {f : Bytes → Except CodecError (α × Bytes)}
    (hitem : Follows readItem f) (bs : Bytes) :
    readWhole kind readItem bs = some (Framing.readWhole kind f bs) := by
  unfold readWhole Framing.readWhole
  split_ifs with hbs
  · rfl
  · -- from the last step to the first, each followed by what comes after it
    have hend (as : List α) : Follows (readEnd kind >>= fun _ => pure as) fun bs =>
        (Framing.readEnd kind bs).map (fun u => (u, bs)) >>= fun p => pure (as, p.2) :=
      (follows_readEnd kind).bind fun _ => follows_pure _
    have hmany (count : Nat) := (follows_readMany hitem count).bind hend
    have hwhole := follows_readCount.bind hmany
    refine (hwhole.run' bs).trans (congrArg some ?_)
    cases Framing.readCount bs with
    | error e => rfl
    | ok p =>
      change Prod.fst <$> (Framing.readMany f p.1 p.2 >>= _) = Framing.readMany f p.1 p.2 >>= _
      cases Framing.readMany f p.1 p.2 with
      | error e => rfl
      | ok q =>
        change Prod.fst <$> ((Framing.readEnd kind q.2).map _ >>= _) =
          Framing.readEnd kind q.2 >>= _
        cases Framing.readEnd kind q.2 <;> rfl

/-- **No read reaches outside the buffer**, whatever counts and lengths the bytes claim, at any
depth; and what is read is what the codec decodes. -/
theorem decode_eq_some (c : Codec) (bs : Bytes) : decode c bs = some (c.decode bs) := by
  induction c generalizing bs with
  | scalar k => rfl
  | list e ih =>
    rw [decode, readWhole_eq_some (follows_readPart ih), Codec.decode,
      Framing.readElements_eq_readWhole]
    cases Framing.readWhole .list (Framing.readPart .list e.decode) bs <;> rfl
  | set e ih =>
    rw [decode, readWhole_eq_some (follows_readPart ih), Codec.decode,
      Framing.readElements_eq_readWhole]
    cases Framing.readWhole .set (Framing.readPart .set e.decode) bs <;> rfl
  | map k v ihk ihv =>
    rw [decode, readWhole_eq_some (follows_readPair ihk ihv), Codec.decode,
      Framing.readEntries_eq_readWhole]
    cases Framing.readWhole .map (Framing.readPair k.decode v.decode) bs <;> rfl
  | custom c => rfl

/-- **Collections are decoded from the bytes that frame them and from no others**, for any codecs
of the parts; and every codec can read in place without leaving the buffer. -/
theorem decode_collection_iff_framed (e k u : Codec) (bs : Bytes) (v : Value) :
    ((Codec.list e).decode bs = .ok v ↔
      ∃ vs, Framing.IsElements e.decode bs vs ∧ .list vs = v) ∧
    ((Codec.set e).decode bs = .ok v ↔
      ∃ vs, Framing.IsElements e.decode bs vs ∧ .set vs = v) ∧
    ((Codec.map k u).decode bs = .ok v ↔
      ∃ es, Framing.IsEntries k.decode u.decode bs es ∧ .map es = v) ∧
    ∀ c : Codec, decode c bs = some (c.decode bs) :=
  ⟨Codec.decode_list_eq_ok_iff, Codec.decode_set_eq_ok_iff, Codec.decode_map_eq_ok_iff,
    fun c => decode_eq_some c bs⟩

end Cursor

end WideColumn
