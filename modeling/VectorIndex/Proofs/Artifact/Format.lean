import Mathlib.Tactic.Common
import VectorIndex.Proofs.Artifact.RoundTrip
import VectorIndex.Proofs.Results

/-!
# The files that are artifacts

Exactly the files that consist of the magic word, the version, the checksum of the rest, and as
the rest the body of an artifact with any octets after it, are read as that artifact
(`Artifact.decodeWith_eq_ok_iff`).  Each reader is inverted on its own: where it succeeds, the
octets it took are those that the writer makes of its result.

The checksum is an arbitrary function of the rest.
-/

set_option autoImplicit false

namespace VectorIndex

namespace Bytes

/-- Octets have a value below the capacity of their number. -/
theorem value_lt_capacity (bytes : Bytes) : value bytes < capacity bytes.length := by
  induction bytes with
  | nil => exact Nat.one_pos
  | cons b rest ih =>
    have hb : b.toNat < 256 := b.toNat_lt
    rw [value, List.length_cons, capacity]
    omega

/-- Octets are the digits of their value. -/
theorem digits_value (bytes : Bytes) : digits bytes.length (value bytes) = bytes := by
  induction bytes with
  | nil => rfl
  | cons b rest ih =>
    have hb : b.toNat < 256 := b.toNat_lt
    have hlow : UInt8.ofNat (b.toNat + 256 * value rest) = b := by
      refine UInt8.toNat_inj.1 ?_
      rw [UInt8.toNat_ofNat']
      omega
    have hhigh : (b.toNat + 256 * value rest) / 256 = value rest := by omega
    rw [value, List.length_cons, digits, hlow, hhigh, ih]

/-- What is split off has the length that was asked for, and nothing is lost. -/
theorem split?_eq_some {n : Nat} {bytes front rest : Bytes}
    (h : split? n bytes = some (front, rest)) : front.length = n ∧ bytes = front ++ rest := by
  unfold split? at h
  split at h
  · next hlength =>
    cases h
    exact ⟨hlength, (List.take_append_drop n bytes).symm⟩
  · cases h

end Bytes

namespace Artifact

/-! ## Readers inverted -/

/-- A number is read exactly from its own digits, and the rest is left. -/
theorem takeNumber_eq_ok_iff {w n : Nat} {bytes rest : Bytes} :
    takeNumber w bytes = .ok (n, rest) ↔
      n < Bytes.capacity w ∧ bytes = Bytes.digits w n ++ rest := by
  constructor
  · intro h
    unfold takeNumber at h
    split at h
    · next number _ hsplit =>
      cases h
      obtain ⟨rfl, rfl⟩ := Bytes.split?_eq_some hsplit
      exact ⟨Bytes.value_lt_capacity number, by rw [Bytes.digits_value]⟩
    · cases h
  · rintro ⟨hlt, rfl⟩
    exact takeNumber_digits hlt rest

/-- A metric is found only under its own index. -/
theorem metricAt_eq_some {n : Nat} {m : Metric} (h : metricAt n = some m) : n = metricIndex m := by
  unfold metricAt at h
  split at h <;> cases h <;> rfl

/-- A metric is read exactly from the digits of its index. -/
theorem takeMetric_eq_ok_iff {m : Metric} {bytes rest : Bytes} :
    takeMetric bytes = .ok (m, rest) ↔ bytes = Bytes.digits 4 (metricIndex m) ++ rest := by
  constructor
  · intro h
    obtain ⟨⟨n, rest'⟩, hnumber, hmetric⟩ := exists_ok_of_bind h
    obtain ⟨-, rfl⟩ := takeNumber_eq_ok_iff.1 hnumber
    dsimp only at hmetric
    split at hmetric
    · next hat =>
      cases hmetric
      rw [metricAt_eq_some hat]
    · cases hmetric
  · rintro rfl
    exact takeMetric_digits m rest

/-- Numbers that are read fit their width, and their digits were all that was taken. -/
theorem takeNumbers_eq_ok {w n : Nat} {bytes rest : Bytes} {xs : List Nat}
    (h : takeNumbers w n bytes = .ok (xs, rest)) :
    xs.length = n ∧ (∀ x ∈ xs, x < Bytes.capacity w) ∧
      bytes = xs.flatMap (Bytes.digits w) ++ rest := by
  induction n generalizing bytes xs with
  | zero =>
    cases h
    exact ⟨rfl, nofun, rfl⟩
  | succ n ih =>
    obtain ⟨⟨x, rest₁⟩, hx, h⟩ := exists_ok_of_bind h
    obtain ⟨⟨ys, rest₂⟩, hys, h⟩ := exists_ok_of_bind h
    cases h
    obtain ⟨hlt, rfl⟩ := takeNumber_eq_ok_iff.1 hx
    obtain ⟨hlength, hall, rfl⟩ := ih hys
    refine ⟨by rw [List.length_cons, hlength], ?_, ?_⟩
    · exact List.forall_mem_cons.2 ⟨hlt, hall⟩
    · rw [List.flatMap_cons, List.append_assoc]

/-- A list that is read has a length that fits eight octets, and what was taken is this length and
its entries. -/
theorem takeList_eq_ok {w : Nat} {bytes rest : Bytes} {xs : List Nat}
    (h : takeList w bytes = .ok (xs, rest)) :
    xs.length < 0x10000000000000000 ∧ (∀ x ∈ xs, x < Bytes.capacity w) ∧
      bytes = Bytes.digits 8 xs.length ++ (xs.flatMap (Bytes.digits w) ++ rest) := by
  obtain ⟨⟨n, rest'⟩, hlength, hxs⟩ := exists_ok_of_bind h
  obtain ⟨hlt, rfl⟩ := takeNumber_eq_ok_iff.1 hlength
  obtain ⟨rfl, hall, rfl⟩ := takeNumbers_eq_ok hxs
  rw [Bytes.capacity_eight] at hlt
  exact ⟨hlt, hall, rfl⟩

/-! ## Bodies -/

/-- Lists that have a length in the format: those of at most `2 ^ 64 - 1` entries, which are all
that a machine word can count. -/
structure Countable (a : Artifact) : Prop where
  ids : a.ids.length < 0x10000000000000000
  vectors : a.vectors.length < 0x10000000000000000

/-- Eight octets hold a number of the machine. -/
theorem toNat_ofNat_word {n : Nat} (h : n < Bytes.capacity 8) : (UInt64.ofNat n).toNat = n := by
  rw [Bytes.capacity_eight] at h
  exact UInt64.toNat_ofNat_of_lt' h

/-- Four octets hold a short number of the machine. -/
theorem toNat_ofNat_half {n : Nat} (h : n < Bytes.capacity 4) : (UInt32.ofNat n).toNat = n := by
  rw [Bytes.capacity_four] at h
  exact UInt32.toNat_ofNat_of_lt' h

/-- Entries that are read as numbers below the capacity of their width are written as they were. -/
theorem flatMap_digits_map {α : Type} {w : Nat} (ofNat : Nat → α) (toNat : α → Nat)
    (h : ∀ n, n < Bytes.capacity w → toNat (ofNat n) = n) {xs : List Nat}
    (hxs : ∀ x ∈ xs, x < Bytes.capacity w) :
    (xs.map ofNat).flatMap (fun x => Bytes.digits w (toNat x)) = xs.flatMap (Bytes.digits w) := by
  rw [List.flatMap_map, List.flatMap_def, List.flatMap_def]
  refine congrArg List.flatten (List.map_congr_left fun x hx => ?_)
  rw [h x (hxs x hx)]

/-- A body is read from exactly the octets that are the body of the result and what is left. -/
theorem takeBody_eq_ok_iff {a : Artifact} {bytes rest : Bytes} :
    takeBody bytes = .ok (a, rest) ↔ a.Countable ∧ bytes = a.body ++ rest := by
  constructor
  · intro h
    obtain ⟨⟨metric, rest₁⟩, hmetric, h⟩ := exists_ok_of_bind h
    obtain ⟨⟨dimension, rest₂⟩, hdimension, h⟩ := exists_ok_of_bind h
    obtain ⟨⟨efSearch, rest₃⟩, hsearch, h⟩ := exists_ok_of_bind h
    obtain ⟨⟨efConstruction, rest₄⟩, hconstruction, h⟩ := exists_ok_of_bind h
    obtain ⟨⟨ids, rest₅⟩, hids, h⟩ := exists_ok_of_bind h
    obtain ⟨⟨vectors, rest₆⟩, hvectors, h⟩ := exists_ok_of_bind h
    cases h
    obtain rfl := takeMetric_eq_ok_iff.1 hmetric
    obtain ⟨hdimensionFits, rfl⟩ := takeNumber_eq_ok_iff.1 hdimension
    obtain ⟨hsearchFits, rfl⟩ := takeNumber_eq_ok_iff.1 hsearch
    obtain ⟨hconstructionFits, rfl⟩ := takeNumber_eq_ok_iff.1 hconstruction
    obtain ⟨hidCount, hidEntries, rfl⟩ := takeList_eq_ok hids
    obtain ⟨hvectorCount, hvectorEntries, rfl⟩ := takeList_eq_ok hvectors
    refine ⟨⟨?_, ?_⟩, ?_⟩
    · rwa [List.length_map]
    · rwa [List.length_map]
    · have hidBytes := flatMap_digits_map (fun n => (UInt64.ofNat n).toInt64)
        (fun id => id.toUInt64.toNat) (fun n hn => toNat_ofNat_word hn) hidEntries
      have hvectorBytes := flatMap_digits_map UInt32.ofNat UInt32.toNat
        (fun n hn => toNat_ofNat_half hn) hvectorEntries
      unfold body
      rw [hidBytes, hvectorBytes, List.length_map, List.length_map, toNat_ofNat_word hdimensionFits,
        toNat_ofNat_word hsearchFits, toNat_ofNat_word hconstructionFits]
      simp only [List.append_assoc]
  · rintro ⟨hcountable, rfl⟩
    exact takeBody_body hcountable.ids hcountable.vectors rest

/-! ## Files -/

/-- The header in front of a rest. -/
def headerWith (checksum : Bytes → UInt64) (rest : Bytes) : Bytes :=
  magic ++ Bytes.digits 4 version ++ Bytes.digits 8 (checksum rest).toNat

/-- A header is always twenty octets long. -/
theorem length_headerWith (checksum : Bytes → UInt64) (rest : Bytes) :
    (headerWith checksum rest).length = 20 := by
  unfold headerWith
  rw [List.length_append, List.length_append, Bytes.length_digits, Bytes.length_digits]
  rfl

/-- The three checks of a header of the right length accept exactly the header that belongs to the
rest. -/
theorem eq_headerWith_iff (checksum : Bytes → UInt64) {header rest : Bytes}
    (hlength : header.length = 20) :
    header = headerWith checksum rest ↔
      header.take 8 = magic ∧ Bytes.value ((header.drop 8).take 4) = version ∧
        Bytes.value (header.drop 12) = (checksum rest).toNat := by
  have hword : (checksum rest).toNat < Bytes.capacity 8 := by
    rw [Bytes.capacity_eight]
    exact (checksum rest).toNat_lt
  constructor
  · rintro rfl
    unfold headerWith
    refine ⟨?_, ?_, ?_⟩
    · rw [List.append_assoc, List.take_left' (by rfl)]
    · rw [List.append_assoc, List.drop_left' (by rfl), List.take_left' (by rfl)]
      rfl
    · rw [List.drop_left' (by rfl), Bytes.value_digits_of_lt hword]
  · rintro ⟨hmagic, hversion, hchecksum⟩
    have hversionLength : ((header.drop 8).take 4).length = 4 := by
      rw [List.length_take, List.length_drop, hlength]
      rfl
    have hsumLength : (header.drop 12).length = 8 := by rw [List.length_drop, hlength]
    have hmiddle := Bytes.digits_value ((header.drop 8).take 4)
    have hlast := Bytes.digits_value (header.drop 12)
    rw [hversionLength, hversion] at hmiddle
    rw [hsumLength, hchecksum] at hlast
    unfold headerWith
    rw [← hmagic, hmiddle, hlast, List.append_assoc]
    have hcut : (header.drop 8).take 4 ++ header.drop 12 = header.drop 8 := by
      have hsplit := List.take_append_drop 4 (header.drop 8)
      rwa [List.drop_drop] at hsplit
    rw [hcut, List.take_append_drop]

/-- A file is read by reading the body behind the header that belongs to it. -/
theorem decodeWith_eq_ok_iff_takeBody (checksum : Bytes → UInt64) {file : Bytes} {a : Artifact} :
    decodeWith checksum file = .ok a ↔
      ∃ rest trailing, file = headerWith checksum rest ++ rest ∧
        takeBody rest = .ok (a, trailing) := by
  constructor
  · intro h
    unfold decodeWith at h
    split at h
    · cases h
    · next header rest hsplit =>
      obtain ⟨hlength, rfl⟩ := Bytes.split?_eq_some hsplit
      dsimp only at h
      split at h
      · cases h
      · next hmagic =>
        split at h
        · cases h
        · next hversion =>
          split at h
          · cases h
          · next hchecksum =>
            have hheader := (eq_headerWith_iff checksum hlength).2
              ⟨not_not.1 hmagic, not_not.1 hversion, not_not.1 hchecksum⟩
            cases htake : takeBody rest with
            | error e =>
              rw [htake] at h
              cases h
            | ok taken =>
              rw [htake] at h
              cases h
              exact ⟨rest, taken.2, by rw [← hheader], htake⟩
  · rintro ⟨rest, trailing, rfl, htake⟩
    obtain ⟨hmagic, hversion, hchecksum⟩ :=
      (eq_headerWith_iff checksum (length_headerWith checksum rest)).1 rfl
    unfold decodeWith
    rw [Bytes.split?_append (length_headerWith checksum rest)]
    dsimp only
    rw [if_neg (not_not.2 hmagic), if_neg (not_not.2 hversion), if_neg (not_not.2 hchecksum), htake]
    rfl

/-- Exactly those files are read that are a header that fits, the body of the result and trailing
octets. -/
theorem decodeWith_eq_ok_iff (checksum : Bytes → UInt64) {file : Bytes} {a : Artifact} :
    decodeWith checksum file = .ok a ↔
      a.Countable ∧
        ∃ trailing, file = headerWith checksum (a.body ++ trailing) ++ (a.body ++ trailing) := by
  rw [decodeWith_eq_ok_iff_takeBody]
  constructor
  · rintro ⟨rest, trailing, rfl, htake⟩
    obtain ⟨hcountable, rfl⟩ := takeBody_eq_ok_iff.1 htake
    exact ⟨hcountable, trailing, rfl⟩
  · rintro ⟨hcountable, trailing, rfl⟩
    exact ⟨_, trailing, rfl, takeBody_eq_ok_iff.2 ⟨hcountable, rfl⟩⟩

/-- A written artifact is read back, whatever the checksum is. -/
theorem Countable.decodeWith_encodeWith (checksum : Bytes → UInt64) {a : Artifact}
    (h : a.Countable) : decodeWith checksum (a.encodeWith checksum) = .ok a := by
  refine (decodeWith_eq_ok_iff checksum).2 ⟨h, [], ?_⟩
  rw [List.append_nil]
  rfl

/-- A written artifact is read back under the checksum of the format. -/
theorem Countable.decode_encode {a : Artifact} (h : a.Countable) : decode a.encode = .ok a :=
  h.decodeWith_encodeWith Xxh3.hash

/-- No body is the beginning of another one, so a body and what follows it can be told apart. -/
theorem Countable.eq_of_body_append {a a' : Artifact} (h : a.Countable) (h' : a'.Countable)
    {trailing trailing' : Bytes} (heq : a.body ++ trailing = a'.body ++ trailing') :
    a = a' ∧ trailing = trailing' := by
  have hread := takeBody_eq_ok_iff.2 ⟨h, heq.symm⟩
  rw [takeBody_eq_ok_iff.2 ⟨h', rfl⟩] at hread
  cases hread
  exact ⟨rfl, rfl⟩

/-- Two artifacts with the same file are the same. -/
theorem Countable.eq_of_encodeWith (checksum : Bytes → UInt64) {a a' : Artifact}
    (h : a.Countable) (h' : a'.Countable)
    (heq : a.encodeWith checksum = a'.encodeWith checksum) : a = a' := by
  have hread := h.decodeWith_encodeWith checksum
  rw [heq, h'.decodeWith_encodeWith checksum] at hread
  exact (Except.ok.inj hread).symm

/-- The format, whatever the checksum is.  An artifact is read back from its file bit for bit; a
file is read as an artifact exactly if it is the magic word, the version, the checksum of the
rest, and a rest that starts with the artifact's body; different artifacts have different files;
and what starts with a body starts with one body only. -/
theorem reads_exactly_what_is_written (checksum : Bytes → UInt64) :
    (∀ a : Artifact, a.Countable → decodeWith checksum (a.encodeWith checksum) = .ok a) ∧
    (∀ (file : Bytes) (a : Artifact), decodeWith checksum file = .ok a ↔
      a.Countable ∧ ∃ trailing : Bytes,
        file = magic ++ Bytes.digits 4 version ++
          Bytes.digits 8 (checksum (a.body ++ trailing)).toNat ++ (a.body ++ trailing)) ∧
    (∀ a a' : Artifact, a.Countable → a'.Countable →
      a.encodeWith checksum = a'.encodeWith checksum → a = a') ∧
    ∀ (a a' : Artifact) (trailing trailing' : Bytes), a.Countable → a'.Countable →
      a.body ++ trailing = a'.body ++ trailing' → a = a' ∧ trailing = trailing' := by
  refine ⟨?_, ?_, ?_, ?_⟩
  · intro a h
    exact h.decodeWith_encodeWith checksum
  · intro file a
    exact decodeWith_eq_ok_iff checksum
  · intro a a' h h' heq
    exact h.eq_of_encodeWith checksum h' heq
  · intro a a' trailing trailing' h h' heq
    exact h.eq_of_body_append h' heq

/-- A negative id and a pattern that is not a number come back from a file. -/
theorem reads_back_negative_id_and_nan :
    Countable ⟨.cosine, 0xffffffffffffffff, 0, 1, [-1], [0x7fc00001]⟩ ∧
      decode (encode ⟨.cosine, 0xffffffffffffffff, 0, 1, [-1], [0x7fc00001]⟩) =
        .ok ⟨.cosine, 0xffffffffffffffff, 0, 1, [-1], [0x7fc00001]⟩ := by
  have hcountable : Countable ⟨.cosine, 0xffffffffffffffff, 0, 1, [-1], [0x7fc00001]⟩ :=
    ⟨by decide, by decide⟩
  exact ⟨hcountable, (reads_exactly_what_is_written Xxh3.hash).1 _ hcountable⟩

end Artifact

end VectorIndex
