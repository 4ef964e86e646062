import DraMultiDevice.Handler.Types

/-!
# Claim UIDs from pod annotations

`extractClaimUIDs`, `extractUUIDs`, `isUUID` and `isHexDigit` of the NRI plugin
(`pkg/nri/plugin.go`). A Go string is a byte sequence and `isUUID` walks it with a
`range` loop, which decodes UTF-8 one rune at a time; both are modelled on the bytes
(`List UInt8`), with Go's decoder `utf8.DecodeRune`. A window the scan accepts is
turned back into a Lean string rune by rune.

## Main results

* `extractClaimUIDs_spec`: the UIDs extracted from an annotation map are duplicate-free
  and are exactly the UUIDs found in the values under the DRA key prefix, whatever the
  map's iteration order.
* `extractUUIDs_eq_uuidScan`: on an ASCII string, `extractUUIDs` is the left-to-right
  byte-offset scan of the ASCII UUID grammar (`uuidScan`); on every string its loop is
  that scan with `isUUID` as the window test (`scanUUIDs_drop`).
* `extractUUIDs_accepts_non_ascii_window`: `isUUID` reads a rune's low byte, so a window
  starting with U+0130 passes as a UUID.
-/

namespace DraMultiDevice

/-- `utf8.RuneError`. -/
def runeError : Nat := 0xFFFD

/-- The range a continuation byte must lie in (`utf8.locb`, `utf8.hicb`). -/
def isContinuation (b : UInt8) : Bool := 0x80 ≤ b && b ≤ 0xBF

/-- `utf8.first` and `utf8.acceptRanges`: for a lead byte of a multi-byte sequence,
the sequence length and the range allowed for its second byte. -/
def leadByte (b : UInt8) : Option (Nat × UInt8 × UInt8) :=
  if 0xC2 ≤ b ∧ b ≤ 0xDF then some (2, 0x80, 0xBF)
  else if b = 0xE0 then some (3, 0xA0, 0xBF)
  else if 0xE1 ≤ b ∧ b ≤ 0xEC then some (3, 0x80, 0xBF)
  else if b = 0xED then some (3, 0x80, 0x9F)
  else if 0xEE ≤ b ∧ b ≤ 0xEF then some (3, 0x80, 0xBF)
  else if b = 0xF0 then some (4, 0x90, 0xBF)
  else if 0xF1 ≤ b ∧ b ≤ 0xF3 then some (4, 0x80, 0xBF)
  else if b = 0xF4 then some (4, 0x80, 0x8F)
  else none

/-- `utf8.DecodeRune`: the rune at the head of the bytes and its width. A byte that
starts no valid sequence, or a sequence cut short, decodes as `RuneError` of width 1. -/
def decodeRune : List UInt8 → Nat × Nat
  | [] => (runeError, 0)
  | b0 :: rest =>
    if b0 < 0x80 then (b0.toNat, 1)
    else
      match leadByte b0, rest with
      | some (2, lo, hi), b1 :: _ =>
        if lo ≤ b1 ∧ b1 ≤ hi then ((b0.toNat % 32) * 64 + b1.toNat % 64, 2)
        else (runeError, 1)
      | some (3, lo, hi), b1 :: b2 :: _ =>
        if lo ≤ b1 ∧ b1 ≤ hi ∧ isContinuation b2 then
          ((b0.toNat % 16) * 4096 + (b1.toNat % 64) * 64 + b2.toNat % 64, 3)
        else (runeError, 1)
      | some (4, lo, hi), b1 :: b2 :: b3 :: _ =>
        if lo ≤ b1 ∧ b1 ≤ hi ∧ isContinuation b2 ∧ isContinuation b3 then
          ((b0.toNat % 8) * 262144 + (b1.toNat % 64) * 4096 + (b2.toNat % 64) * 64 +
            b3.toNat % 64, 4)
        else (runeError, 1)
      | _, _ => (runeError, 1)

/-- The `(offset, rune)` pairs `for i, c := range s` visits, starting at byte `offset`.
Every step consumes at least one byte, so the byte count is enough fuel. -/
def runesFrom : Nat → Nat → List UInt8 → List (Nat × Nat)
  | 0, _, _ => []
  | _, _, [] => []
  | fuel + 1, offset, s@(_ :: _) =>
    let (rune, width) := decodeRune s
    (offset, rune) :: runesFrom fuel (offset + width) (s.drop width)

/-- The runes of a Go string with their byte offsets. -/
def runes (s : List UInt8) : List (Nat × Nat) :=
  runesFrom s.length 0 s

def isHexDigit (c : UInt8) : Bool :=
  ('0'.toNat.toUInt8 ≤ c && c ≤ '9'.toNat.toUInt8) ||
    ('a'.toNat.toUInt8 ≤ c && c ≤ 'f'.toNat.toUInt8) ||
    ('A'.toNat.toUInt8 ≤ c && c ≤ 'F'.toNat.toUInt8)

/-- `isUUID`: 36 bytes, `'-'` at the runes starting at offsets 8, 13, 18 and 23, and
every other rune's low byte (`byte(c)`) a hex digit. -/
def isUUID (s : List UInt8) : Bool :=
  s.length = 36 &&
    (runes s).all fun (i, c) =>
      if i = 8 ∨ i = 13 ∨ i = 18 ∨ i = 23 then c = '-'.toNat
      else isHexDigit c.toUInt8

/-- The loop of `extractUUIDs`: at each offset, take the 36-byte window if it is a
UUID and resume after it, otherwise resume one byte further. -/
def scanUUIDs : Nat → List UInt8 → List (List UInt8)
  | 0, _ => []
  | fuel + 1, s =>
    if 36 ≤ s.length then
      if isUUID (s.take 36) then s.take 36 :: scanUUIDs fuel (s.drop 36)
      else scanUUIDs fuel s.tail
    else []

/-- A Go string as a Lean string: its runes in order. -/
def bytesToString (b : List UInt8) : String :=
  ⟨(runes b).map fun (_, rune) => Char.ofNat rune⟩

/-- The bytes of a Go string: its UTF-8 encoding. -/
def goBytes (s : String) : List UInt8 := s.toUTF8.data.toList

def extractUUIDs (s : String) : List String :=
  (scanUUIDs (goBytes s).length (goBytes s)).map bytesToString

/-! ### The byte-offset scan of the ASCII UUID grammar -/

/-- The ASCII UUID grammar on a window of bytes: 36 bytes, `'-'` at bytes 8, 13, 18 and 23,
and a hex digit at every other byte. -/
def asciiUUID (w : List UInt8) : Bool :=
  w.length = 36 && w.enum.all fun (i, b) =>
    if i = 8 ∨ i = 13 ∨ i = 18 ∨ i = 23 then b = '-'.toNat.toUInt8 else isHexDigit b

/-- A left-to-right scan over byte offsets: at each offset `i` with `i + 36 ≤ len s`, take
the window `s[i:i+36]` if `accept` holds of it and resume at `i + 36`, otherwise resume at
`i + 1`. -/
def scanWindows (accept : List UInt8 → Bool) (s : List UInt8) : Nat → Nat → List (List UInt8)
  | 0, _ => []
  | fuel + 1, i =>
    if i + 36 ≤ s.length then
      if accept ((s.drop i).take 36) then (s.drop i).take 36 :: scanWindows accept s fuel (i + 36)
      else scanWindows accept s fuel (i + 1)
    else []

/-- The byte-offset scan with the ASCII UUID grammar as its window test. -/
def uuidScan (s : List UInt8) : List (List UInt8) :=
  scanWindows asciiUUID s s.length 0

/-- The loop of `extractUUIDs` is the byte-offset scan with `isUUID` as its window test:
the suffix it is given at offset `i` is the string from byte `i` on. -/
theorem scanUUIDs_drop (s : List UInt8) (fuel i : Nat) :
    scanUUIDs fuel (s.drop i) = scanWindows isUUID s fuel i := by
  induction fuel generalizing i with
  | zero => rfl
  | succ fuel ih =>
    have fits : 36 ≤ (s.drop i).length ↔ i + 36 ≤ s.length := by
      rw [List.length_drop]
      omega
    simp only [scanUUIDs, scanWindows, fits, List.drop_drop, List.tail_drop, ih,
      Nat.add_comm 36]

theorem scanWindows_congr {accept accept' : List UInt8 → Bool} (s : List UInt8)
    (agree : ∀ i, i + 36 ≤ s.length → accept ((s.drop i).take 36) = accept' ((s.drop i).take 36))
    (fuel i : Nat) : scanWindows accept s fuel i = scanWindows accept' s fuel i := by
  induction fuel generalizing i with
  | zero => rfl
  | succ fuel ih =>
    simp only [scanWindows]
    split
    next fits => rw [agree i fits, ih, ih]
    next => rfl

theorem toUInt8_toNat (b : UInt8) : b.toNat.toUInt8 = b :=
  UInt8.toNat.inj (UInt8.toNat_ofNat_of_lt b.val.isLt)

/-- On ASCII bytes every rune is one byte wide: the runes are the bytes with their offsets. -/
theorem runesFrom_ascii (s : List UInt8) (ascii : ∀ b ∈ s, b < 0x80) (fuel offset : Nat)
    (enough : s.length ≤ fuel) :
    runesFrom fuel offset s = (s.enumFrom offset).map fun (i, b) => (i, b.toNat) := by
  induction s generalizing fuel offset with
  | nil => cases fuel <;> rfl
  | cons b rest ih =>
    obtain _ | fuel := fuel
    · simp at enough
    · have single : decodeRune (b :: rest) = (b.toNat, 1) :=
        if_pos (ascii b (List.mem_cons_self _ _))
      simp only [runesFrom, single, List.drop_one, List.tail_cons, List.enumFrom_cons,
        List.map_cons]
      rw [ih (fun b' member => ascii b' (List.mem_cons_of_mem _ member)) fuel _
        (by simpa using enough)]

/-- On an ASCII window, `isUUID` is exactly the ASCII UUID grammar. -/
theorem isUUID_eq_asciiUUID (w : List UInt8) (ascii : ∀ b ∈ w, b < 0x80) :
    isUUID w = asciiUUID w := by
  have dash (b : UInt8) : b.toNat = '-'.toNat ↔ b = '-'.toNat.toUInt8 :=
    ⟨fun same => UInt8.toNat.inj same, fun same => same ▸ rfl⟩
  rw [isUUID, asciiUUID, runes, runesFrom_ascii w ascii _ _ le_rfl]
  congr 1
  apply Bool.eq_iff_iff.mpr
  simp only [List.all_eq_true, List.forall_mem_map, List.enum, toUInt8_toNat, dash]

/-- A byte that a UUID window may hold, a hex digit or `'-'`, is ASCII. -/
theorem lt_of_isHexDigit {b : UInt8} (hex : isHexDigit b = true) : b < 0x80 := by
  simp only [isHexDigit, Bool.or_eq_true, Bool.and_eq_true, decide_eq_true_eq] at hex
  show b.toNat < 128
  rcases hex with (⟨-, high⟩ | ⟨-, high⟩) | ⟨-, high⟩ <;> exact Nat.lt_of_le_of_lt high (by decide)

/-- Every window of the ASCII UUID grammar is ASCII, so `isUUID` accepts it. -/
theorem isUUID_of_asciiUUID {w : List UInt8} (grammar : asciiUUID w = true) : isUUID w = true := by
  have ascii : ∀ b ∈ w, b < 0x80 := by
    intro b member
    rw [← List.enum_map_snd w] at member
    obtain ⟨⟨i, b⟩, entry, rfl⟩ := List.mem_map.mp member
    show b < 0x80
    simp only [asciiUUID, Bool.and_eq_true, List.all_eq_true] at grammar
    have := grammar.2 _ entry
    split at this
    · simp only [decide_eq_true_eq] at this
      rw [this]
      decide
    · exact lt_of_isHexDigit this
  rwa [isUUID_eq_asciiUUID w ascii]

/-- On an ASCII string, `extractUUIDs` is the byte-offset scan of the ASCII UUID grammar. -/
theorem extractUUIDs_eq_uuidScan (s : String) (ascii : ∀ b ∈ goBytes s, b < 0x80) :
    extractUUIDs s = (uuidScan (goBytes s)).map bytesToString := by
  have loop := scanUUIDs_drop (goBytes s) (goBytes s).length 0
  rw [List.drop_zero] at loop
  rw [extractUUIDs, uuidScan, loop]
  congr 1
  refine scanWindows_congr _ (fun i _ => isUUID_eq_asciiUUID _ fun b member => ?_) _ _
  exact ascii b (List.mem_of_mem_drop (List.mem_of_mem_take member))

/-- A 36-byte string whose first rune is `İ` (U+0130, the two bytes C4 B0), followed by
the rest of a UUID. -/
def dottedCapitalUUID : String := "İbbccdd-1234-5678-abcd-1234567890ab"

/-- `isUUID` converts each rune with `byte(c)`, and the low byte of U+0130 is 0x30, the digit
`'0'`: it accepts the window, which the ASCII UUID grammar rejects at its first byte, so
`extractUUIDs` returns a UUID that the byte-offset scan does not find. -/
theorem extractUUIDs_accepts_non_ascii_window :
    isUUID (goBytes dottedCapitalUUID) = true ∧ asciiUUID (goBytes dottedCapitalUUID) = false ∧
      extractUUIDs dottedCapitalUUID = [dottedCapitalUUID] ∧
      uuidScan (goBytes dottedCapitalUUID) = [] := by
  decide

/-- The DRA annotation key prefix. -/
def claimAnnotationPrefix : String := "resource.kubernetes.io/"

/-- The inner loop of `extractClaimUIDs`: append each candidate not yet `seen`. -/
def addCandidates : List String → List String × List String → List String × List String
  | [], acc => acc
  | candidate :: rest, (uids, seen) =>
    if candidate ∈ seen then addCandidates rest (uids, seen)
    else addCandidates rest (uids ++ [candidate], candidate :: seen)

/-- The outer loop of `extractClaimUIDs` over the annotation entries, in iteration order. -/
def extractClaimUIDsLoop : List (String × String) → List String × List String →
    List String × List String
  | [], acc => acc
  | (key, value) :: rest, acc =>
    if hasPrefix key claimAnnotationPrefix then
      extractClaimUIDsLoop rest (addCandidates (extractUUIDs value) acc)
    else extractClaimUIDsLoop rest acc

/-- `extractClaimUIDs`: the annotation map is given by its entries in the order the
`range` loop visits them. -/
def extractClaimUIDs (annotations : List (String × String)) : List String :=
  (extractClaimUIDsLoop annotations ([], [])).1

/-! ### The loop invariant: `uids` is duplicate-free and is the `seen` set -/

/-- The invariant of both loops of `extractClaimUIDs`. -/
def SeenInv (acc : List String × List String) : Prop :=
  acc.1.Nodup ∧ ∀ c, c ∈ acc.1 ↔ c ∈ acc.2

theorem addCandidates_spec (candidates : List String) (acc : List String × List String)
    (inv : SeenInv acc) :
    SeenInv (addCandidates candidates acc) ∧
      ∀ c, c ∈ (addCandidates candidates acc).1 ↔ c ∈ acc.1 ∨ c ∈ candidates := by
  induction candidates generalizing acc with
  | nil => simpa [addCandidates] using inv
  | cons candidate rest ih =>
    obtain ⟨uids, seen⟩ := acc
    obtain ⟨nodup, same⟩ := inv
    simp only [addCandidates]
    split
    next old =>
      obtain ⟨inv', members⟩ := ih (uids, seen) ⟨nodup, same⟩
      refine ⟨inv', fun c => ?_⟩
      rw [members]
      by_cases here : c = candidate
      · subst here
        simp [(same c).mpr old]
      · simp [here]
    next new =>
      have fresh : candidate ∉ uids := fun member => new ((same candidate).mp member)
      obtain ⟨inv', members⟩ := ih (uids ++ [candidate], candidate :: seen)
        ⟨List.nodup_append.mpr ⟨nodup, List.nodup_singleton _, by simpa using fresh⟩,
          fun c => by simp [same, or_comm]⟩
      exact ⟨inv', fun c => by simp [members, or_assoc]⟩

theorem extractClaimUIDsLoop_spec (annotations : List (String × String))
    (acc : List String × List String) (inv : SeenInv acc) :
    SeenInv (extractClaimUIDsLoop annotations acc) ∧
      ∀ c, c ∈ (extractClaimUIDsLoop annotations acc).1 ↔ c ∈ acc.1 ∨
        ∃ kv ∈ annotations, hasPrefix kv.1 claimAnnotationPrefix = true ∧
          c ∈ extractUUIDs kv.2 := by
  induction annotations generalizing acc with
  | nil => simpa [extractClaimUIDsLoop] using inv
  | cons entry rest ih =>
    obtain ⟨key, value⟩ := entry
    simp only [extractClaimUIDsLoop]
    split
    next claimKey =>
      obtain ⟨inv', added⟩ := addCandidates_spec (extractUUIDs value) acc inv
      obtain ⟨inv'', members⟩ := ih _ inv'
      refine ⟨inv'', fun c => ?_⟩
      simp only [members, added, List.mem_cons, exists_eq_or_imp, claimKey, true_and, or_assoc]
    next other =>
      obtain ⟨inv', members⟩ := ih acc inv
      refine ⟨inv', fun c => ?_⟩
      simp [members, other]

/-- **Claim UID extraction.** For every annotation map, in every iteration order,
`extractClaimUIDs` returns each UUID found under the DRA key prefix exactly once and
nothing else, so the set it returns does not depend on the iteration order. -/
theorem extractClaimUIDs_spec (annotations : List (String × String)) :
    (extractClaimUIDs annotations).Nodup ∧
      (∀ c, c ∈ extractClaimUIDs annotations ↔
        ∃ kv ∈ annotations, hasPrefix kv.1 claimAnnotationPrefix = true ∧
          c ∈ extractUUIDs kv.2) ∧
      ∀ reordered, reordered.Perm annotations →
        ∀ c, c ∈ extractClaimUIDs reordered ↔ c ∈ extractClaimUIDs annotations := by
  have start : SeenInv (([], []) : List String × List String) := ⟨List.nodup_nil, by simp⟩
  have members (entries : List (String × String)) (c : String) :
      c ∈ extractClaimUIDs entries ↔ ∃ kv ∈ entries,
        hasPrefix kv.1 claimAnnotationPrefix = true ∧ c ∈ extractUUIDs kv.2 := by
    simpa using (extractClaimUIDsLoop_spec entries ([], []) start).2 c
  refine ⟨(extractClaimUIDsLoop_spec annotations ([], []) start).1.1, members annotations,
    fun reordered perm c => ?_⟩
  rw [members, members]
  exact exists_congr fun kv => and_congr_left' perm.mem_iff

end DraMultiDevice
