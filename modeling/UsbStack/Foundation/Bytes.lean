import Mathlib.Data.List.Basic
import Mathlib.Data.List.Induction
import Mathlib.Data.List.TakeDrop
import Mathlib.Tactic.Common

/-! # Slices of a buffer, and messages cut into packets

`&buf[a..b]` and writes through it, with the range checks left to the caller as an `Option`, and
the cutting of a message into packets of a fixed size that ends with a shorter one.
-/

namespace UsbStack.Foundation

set_option autoImplicit false

variable {α : Type}

/-- `&buf[start..stop]`, when the range is valid. -/
def slice? (buf : List α) (start stop : Nat) : Option (List α) :=
  if start ≤ stop ∧ stop ≤ buf.length then some ((buf.drop start).take (stop - start)) else none

/-- `buf[index] = a`, when the index is valid. -/
def set? (buf : List α) (index : Nat) (a : α) : Option (List α) :=
  if index < buf.length then some (buf.set index a) else none

/-- The buffer after `data` has been copied to `start`. -/
def overwrite (buf : List α) (start : Nat) (data : List α) : List α :=
  buf.take start ++ data ++ buf.drop (start + data.length)

theorem slice?_eq_some {buf part : List α} {start stop : Nat}
    (h : slice? buf start stop = some part) :
    start ≤ stop ∧ stop ≤ buf.length ∧ part = (buf.drop start).take (stop - start) := by
  unfold slice? at h
  split at h
  · rename_i hRange
    exact ⟨hRange.1, hRange.2, (Option.some.inj h).symm⟩
  · cases h

theorem slice?_of_le {buf : List α} {start stop : Nat} (hStart : start ≤ stop)
    (hStop : stop ≤ buf.length) :
    slice? buf start stop = some ((buf.drop start).take (stop - start)) :=
  if_pos ⟨hStart, hStop⟩

theorem slice?_eq_none {buf : List α} {start stop : Nat} (hStop : buf.length < stop) :
    slice? buf start stop = none :=
  if_neg fun h => by omega

theorem length_overwrite {buf data : List α} {start : Nat} (h : start + data.length ≤ buf.length) :
    (overwrite buf start data).length = buf.length := by
  simp only [overwrite, List.length_append, List.length_take, List.length_drop]
  omega

theorem take_overwrite {buf : List α} (data : List α) {start : Nat} (h : start ≤ buf.length) :
    (overwrite buf start data).take (start + data.length) = buf.take start ++ data := by
  have hLength : (buf.take start ++ data).length = start + data.length := by
    rw [List.length_append, List.length_take, Nat.min_eq_left h]
  rw [overwrite, ← hLength, List.take_left]

theorem take_overwrite_of_le {buf : List α} (data : List α) {start n : Nat}
    (h : start + data.length ≤ n) (hBuf : start ≤ buf.length) :
    (overwrite buf start data).take n = overwrite (buf.take n) start data := by
  have hStart : (buf.take start).length = start := by rw [List.length_take, Nat.min_eq_left hBuf]
  rw [overwrite, overwrite, List.append_assoc, List.append_assoc, List.take_append, hStart,
    List.take_append, List.take_of_length_le (l := buf.take start) (by omega),
    List.take_of_length_le (l := data) (by omega), List.take_take, Nat.min_eq_left (by omega),
    List.drop_take]
  congr 3
  omega

theorem getElem?_overwrite {buf data : List α} {start : Nat} (h : start ≤ buf.length) (k : Nat) :
    (overwrite buf start data)[k]? =
      if k < start then buf[k]? else if k < start + data.length then data[k - start]? else buf[k]? := by
  have hTake : (buf.take start).length = start := by rw [List.length_take, Nat.min_eq_left h]
  have hPrefix : (buf.take start ++ data).length = start + data.length := by
    rw [List.length_append, hTake]
  rw [overwrite]
  split
  · rename_i hk
    rw [List.getElem?_append_left (by omega), List.getElem?_append_left (by omega),
      List.getElem?_take_of_lt hk]
  · split
    · rw [List.getElem?_append_left (by omega), List.getElem?_append_right (by omega), hTake]
    · rw [List.getElem?_append_right (by omega), hPrefix, List.getElem?_drop]
      congr 1
      omega

theorem take_overwrite_of_ge {buf : List α} (data : List α) {start n : Nat} (h : n ≤ start)
    (hBuf : start ≤ buf.length) : (overwrite buf start data).take n = buf.take n := by
  have hStart : (buf.take start).length = start := by rw [List.length_take, Nat.min_eq_left hBuf]
  rw [overwrite, List.append_assoc, List.take_append_of_le_length (by omega), List.take_take,
    Nat.min_eq_left h]

theorem overwrite_overwrite {buf : List α} (first second : List α) {start : Nat}
    (h : start + first.length + second.length ≤ buf.length) :
    overwrite (overwrite buf start first) (start + first.length) second =
      overwrite buf start (first ++ second) := by
  have hFirst : (overwrite buf start first).length = buf.length := length_overwrite (by omega)
  apply List.ext_getElem?
  intro k
  rw [getElem?_overwrite (by omega), getElem?_overwrite (by omega), getElem?_overwrite (by omega),
    List.length_append, List.getElem?_append]
  grind

theorem take_eq_take_iff_getElem? {buf buf' : List α} {n : Nat} :
    buf.take n = buf'.take n ↔ ∀ k < n, buf[k]? = buf'[k]? := by
  constructor
  · intro h k hk
    have := congrArg (·[k]?) h
    simpa only [List.getElem?_take_of_lt hk] using this
  · intro h
    apply List.ext_getElem?
    intro k
    rw [List.getElem?_take, List.getElem?_take]
    split
    · exact h k ‹_›
    · rfl

theorem take_overwrite_congr {buf buf' : List α} (data : List α) {start n : Nat}
    (hTake : buf.take n = buf'.take n) (h : start ≤ buf.length) (h' : start ≤ buf'.length) :
    (overwrite buf start data).take n = (overwrite buf' start data).take n := by
  rw [take_eq_take_iff_getElem?] at hTake ⊢
  intro k hk
  rw [getElem?_overwrite h, getElem?_overwrite h', hTake k hk]

theorem length_le_iff_of_take_eq {buf buf' : List α} {n stop : Nat}
    (hTake : buf.take n = buf'.take n) (hStop : stop ≤ n) :
    stop ≤ buf.length ↔ stop ≤ buf'.length := by
  have hLength := congrArg List.length hTake
  rw [List.length_take, List.length_take] at hLength
  omega

theorem slice?_congr {buf buf' : List α} {n start stop : Nat} (hTake : buf.take n = buf'.take n)
    (hStop : stop ≤ n) : slice? buf start stop = slice? buf' start stop := by
  have hLength := length_le_iff_of_take_eq hTake hStop
  have hPart : (buf.drop start).take (stop - start) = (buf'.drop start).take (stop - start) := by
    have hStopped : buf.take stop = buf'.take stop := by
      have h := congrArg (List.take stop) hTake
      rwa [List.take_take, List.take_take, Nat.min_eq_left hStop] at h
    rw [← List.drop_take, ← List.drop_take, hStopped]
  unfold slice?
  rw [hPart]
  exact if_congr (and_congr_right fun _ => hLength) rfl rfl

theorem slice?_congr_range {buf buf' : List α} {start stop : Nat} (hLength : buf.length = buf'.length)
    (h : ∀ k, start ≤ k → k < stop → buf[k]? = buf'[k]?) :
    slice? buf start stop = slice? buf' start stop := by
  have hPart : (buf.drop start).take (stop - start) = (buf'.drop start).take (stop - start) := by
    rw [take_eq_take_iff_getElem?]
    intro k hk
    rw [List.getElem?_drop, List.getElem?_drop]
    exact h (start + k) (by omega) (by omega)
  unfold slice?
  rw [hPart, hLength]

theorem slice?_isSome_congr {buf buf' : List α} (hLength : buf.length = buf'.length)
    (start stop : Nat) : (slice? buf start stop).isSome = (slice? buf' start stop).isSome := by
  unfold slice?
  rw [hLength]
  split <;> rfl

/-- `message` as its full pieces of `size` bytes and one last packet with the rest, which is
shorter than `size` and may be empty. -/
def packets (size : Nat) (message : List α) : List (List α) :=
  (List.range (message.length / size)).map (fun k => (message.drop (k * size)).take size) ++
    [message.drop (message.length / size * size)]

theorem length_packets (size : Nat) (message : List α) :
    (packets size message).length = message.length / size + 1 := by
  rw [packets, List.length_append, List.length_map, List.length_range, List.length_singleton]

theorem packets_of_lt {size : Nat} {message : List α} (h : message.length < size) :
    packets size message = [message] := by
  simp [packets, Nat.div_eq_of_lt h]

theorem packets_of_le {size : Nat} {message : List α} (hSize : 0 < size)
    (h : size ≤ message.length) :
    packets size message = message.take size :: packets size (message.drop size) := by
  have hDiv : message.length / size = (message.drop size).length / size + 1 := by
    rw [List.length_drop, ← Nat.add_div_right _ hSize, Nat.sub_add_cancel h]
  rw [packets, packets, hDiv, List.range_succ_eq_map]
  simp only [List.map_cons, List.map_map, List.cons_append, Nat.zero_mul, List.drop_zero,
    List.drop_drop]
  congr 2
  · apply List.map_congr_left
    intro k _
    simp [Nat.succ_mul, Nat.add_comm]
  · simp [Nat.succ_mul, Nat.add_comm]

theorem flatten_packets {size : Nat} (hSize : 0 < size) (message : List α) :
    (packets size message).flatten = message := by
  induction hLength : message.length using Nat.strongRecOn generalizing message with
  | ind n ih =>
    rcases Nat.lt_or_ge message.length size with hLt | hLe
    · rw [packets_of_lt hLt, List.flatten_singleton]
    · have hDrop : (message.drop size).length < n := by
        rw [List.length_drop]
        omega
      rw [packets_of_le hSize hLe, List.flatten_cons, ih _ hDrop _ rfl, List.take_append_drop]

/-- The first `count` packets are the whole message when they have room for it. -/
theorem flatten_take_packets {size count : Nat} (hSize : 0 < size) {message : List α}
    (h : message.length ≤ count * size) : ((packets size message).take count).flatten = message := by
  induction count generalizing message with
  | zero =>
    rw [Nat.zero_mul, Nat.le_zero, List.length_eq_zero_iff] at h
    rw [List.take_zero, h, List.flatten_nil]
  | succ count ih =>
    rcases Nat.lt_or_ge message.length size with hLt | hLe
    · rw [packets_of_lt hLt, List.take_succ_cons, List.take_nil, List.flatten_singleton]
    · have hDrop : (message.drop size).length ≤ count * size := by
        rw [List.length_drop]
        rw [Nat.succ_mul] at h
        omega
      rw [packets_of_le hSize hLe, List.take_succ_cons, List.flatten_cons, ih hDrop,
        List.take_append_drop]

theorem length_of_mem_packets {size : Nat} {message packet piece : List α}
    {first rest : List (List α)} (h : packets size message = first ++ packet :: rest)
    (hPiece : piece ∈ first) : piece.length = size := by
  have hFull : piece ∈ (packets size message).dropLast := by
    rw [h, List.dropLast_append_of_ne_nil (List.cons_ne_nil _ _)]
    exact List.mem_append_left _ hPiece
  rw [packets, List.dropLast_concat, List.mem_map] at hFull
  obtain ⟨k, hk, rfl⟩ := hFull
  have hNext : (k + 1) * size ≤ message.length :=
    Nat.le_trans (Nat.mul_le_mul_right _ (List.mem_range.mp hk)) (Nat.div_mul_le_self _ _)
  rw [List.length_take, List.length_drop]
  rw [Nat.succ_mul] at hNext
  omega

theorem dvd_length_flatten {size : Nat} {pieces : List (List α)}
    (h : ∀ piece ∈ pieces, piece.length = size) : size ∣ pieces.flatten.length := by
  induction pieces with
  | nil => exact Nat.dvd_zero size
  | cons piece rest ih =>
    rw [List.flatten_cons, List.length_append, h piece List.mem_cons_self]
    exact Nat.dvd_add (Nat.dvd_refl size)
      (ih fun other hOther => h other (List.mem_cons_of_mem _ hOther))

theorem packets_of_dvd {size : Nat} {message : List α} (h : size ∣ message.length) :
    packets size message = (packets size message).dropLast ++ [[]] := by
  have hLast : message.drop (message.length / size * size) = [] := by
    rw [Nat.div_mul_cancel h, List.drop_length]
  rw [packets, hLast, List.dropLast_concat]

theorem packets_ne_nil (size : Nat) (message : List α) : packets size message ≠ [] :=
  List.append_ne_nil_of_right_ne_nil _ (List.cons_ne_nil _ _)

/-- The last packet of a message, and no other, is short. -/
theorem short_iff_of_packets {size : Nat} {message packet : List α} {got more : List (List α)}
    (hSize : 0 < size)
    (h : packets size message = got ++ packet :: more) : packet.length < size ↔ more = [] := by
  constructor
  · intro hShort
    by_contra hMore
    obtain ⟨next, later, rfl⟩ := List.exists_cons_of_ne_nil hMore
    have hSplit : packets size message = (got ++ [packet]) ++ next :: later := by
      rw [h, List.append_assoc]
      rfl
    have hFull := length_of_mem_packets hSplit (List.mem_append_right got List.mem_cons_self)
    omega
  · rintro rfl
    have hLast : packet = message.drop (message.length / size * size) := by
      rw [packets] at h
      exact (List.cons.inj (List.append_inj_right' h rfl)).1.symm
    have hDiv := Nat.div_add_mod' message.length size
    have hMod := Nat.mod_lt message.length hSize
    rw [hLast, List.length_drop]
    omega

theorem getLast?_flatMap_packets {size : Nat} {past : List (List α)} (hSize : 0 < size)
    {last : List α}
    (hLast : last ∈ (past.flatMap (packets size)).getLast?) : last.length < size := by
  induction past using List.reverseRecOn with
  | nil => cases hLast
  | append_singleton front message =>
    have hSplit := List.dropLast_append_getLast (packets_ne_nil size message)
    rw [List.flatMap_append, List.flatMap_singleton,
      List.getLast?_append_of_ne_nil _ (packets_ne_nil size message),
      List.getLast?_eq_some_getLast (packets_ne_nil size message)] at hLast
    cases hLast
    exact (short_iff_of_packets hSize hSplit.symm).mpr rfl

theorem eq_of_flatMap_packets {size : Nat} {past sent messages : List (List α)}
    (hSent : sent <+: messages) (hPast : past <+: messages)
    (h : sent.flatMap (packets size) = past.flatMap (packets size)) : sent = past := by
  have hNil {more : List (List α)} (hMore : more.flatMap (packets size) = []) : more = [] := by
    by_contra hNe
    obtain ⟨message, later, rfl⟩ := List.exists_cons_of_ne_nil hNe
    rw [List.flatMap_cons] at hMore
    exact packets_ne_nil size message (List.append_eq_nil_iff.mp hMore).1
  rcases List.prefix_or_prefix_of_prefix hSent hPast with ⟨more, rfl⟩ | ⟨more, rfl⟩
  · rw [List.flatMap_append, eq_comm, List.append_right_eq_self] at h
    rw [hNil h, List.append_nil]
  · rw [List.flatMap_append, List.append_right_eq_self] at h
    rw [hNil h, List.append_nil]

end UsbStack.Foundation
