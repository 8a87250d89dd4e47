import SlideMerge.Numeric.Total
import SlideMerge.Text.Utf8

/-!
# Unpacking

The usual packing of an entry is a run of blocks, read bit by bit from the least significant bit of
each byte. A block holds bytes as they are, or codes for single bytes and for copies of what stands
at some distance before. The codes of a block are fixed or stand at its beginning; they are given by
their lengths alone, shorter codes first and codes of one length in the order of their symbols.

Unpacking ends with the last block, or where the bits end, or at a fault. Bits that end too soon are
no fault in themselves: what has been unpacked so far counts.

Of the two other methods of compression nothing is unpacked here.
-/

namespace SlideMerge.Archive

open Text

/-- Why packed data cannot be unpacked. -/
inductive UnpackFault
  | blockKind
  | storedLengths
  | tooManySymbols
  | lengthCodes
  | repetition
  | noEndOfBlock
  | literalCodes
  | distanceCodes
  | literalSymbol
  | distanceSymbol
  | tooFarBack
  deriving DecidableEq, Repr

def UnpackFault.message : UnpackFault → String
  | blockKind => "invalid block type"
  | storedLengths => "invalid stored block lengths"
  | tooManySymbols => "too many length or distance symbols"
  | lengthCodes => "invalid code lengths set"
  | repetition => "invalid bit length repeat"
  | noEndOfBlock => "invalid code -- missing end-of-block"
  | literalCodes => "invalid literal/lengths set"
  | distanceCodes => "invalid distances set"
  | literalSymbol => "invalid literal/length code"
  | distanceSymbol => "invalid distance code"
  | tooFarBack => "invalid distance too far back"

/-- Why unpacking stops before its end. -/
inductive Halt
  /-- There are no more bits. -/
  | exhausted
  | fault (fault : UnpackFault)
  deriving DecidableEq, Repr

/-! ## Bits -/

def bitsOf (bytes : Bytes) : List Bool :=
  bytes.flatMap fun b => (List.range 8).map b.toNat.testBit

/-- What reads from the beginning of some bits, and leaves the bits after it. -/
abbrev BitReader := StateT (List Bool) (Except Halt)

namespace BitReader

/-- Stops at a fault. -/
def fail {α : Type} (fault : UnpackFault) : BitReader α :=
  fun _ => .error (.fault fault)

/-- The next bit. -/
def bit : BitReader Bool
  | [] => .error .exhausted
  | b :: rest => .ok (b, rest)

/-- The number in so many bits. -/
def number : (width : Nat) → BitReader Nat
  | 0 => pure 0
  | width + 1 => do
    let b ← bit
    let higher ← number width
    pure (b.toNat + 2 * higher)

def numbers (width : Nat) : (count : Nat) → BitReader (List Nat)
  | 0 => pure []
  | count + 1 => do
    let n ← number width
    let others ← numbers width count
    pure (n :: others)

/-- A reader that leaves no more bits than there have been. -/
def Shrinks {α : Type} (r : BitReader α) : Prop :=
  ∀ bits a rest, r bits = .ok (a, rest) → rest.length ≤ bits.length

section

variable {α β : Type}

theorem shrinks_pure (a : α) : Shrinks (pure a) := by
  intro bits a rest h
  obtain ⟨-, rfl⟩ := Prod.mk.inj (Except.ok.inj h)
  exact Nat.le_refl _

theorem shrinks_fail (fault : UnpackFault) : Shrinks (fail fault : BitReader α) := by
  intro bits a rest h
  cases h

theorem Shrinks.bind {r : BitReader α} {f : α → BitReader β} (hr : Shrinks r)
    (hf : ∀ a, Shrinks (f a)) : Shrinks (r >>= f) := by
  intro bits b rest h
  change (r bits >>= fun read => f read.1 read.2) = _ at h
  cases first : r bits with
  | error halt =>
    rw [first] at h
    cases h
  | ok read =>
    rw [first] at h
    exact Nat.le_trans (hf read.1 read.2 b rest h) (hr bits read.1 read.2 first)

@[simp] theorem bit_bind (f : Bool → BitReader α) (b : Bool) (rest : List Bool) :
    (bit >>= f) (b :: rest) = f b rest := rfl

theorem shrinks_bit : Shrinks bit := by
  intro bits b rest h
  cases bits with
  | nil => cases h
  | cons c bits =>
    obtain ⟨-, rfl⟩ := Prod.mk.inj (Except.ok.inj h)
    exact Nat.le_succ _

theorem shrinks_number (width : Nat) : Shrinks (number width) := by
  induction width with
  | zero => exact shrinks_pure 0
  | succ width ih => exact shrinks_bit.bind fun _ => ih.bind fun _ => shrinks_pure _

theorem shrinks_numbers (width count : Nat) : Shrinks (numbers width count) := by
  induction count with
  | zero => exact shrinks_pure []
  | succ count ih => exact (shrinks_number width).bind fun _ => ih.bind fun _ => shrinks_pure _

end

end BitReader

open BitReader

/-- As many whole bytes as there are, but no more than a number of them, and the bits after them. -/
def takeBytes : Nat → List Bool → Bytes × List Bool
  | 0, bits => ([], bits)
  | n + 1, bits =>
    match number 8 bits with
    | .error _ => ([], [])
    | .ok (value, rest) =>
      let (bytes, rest) := takeBytes n rest
      (.ofNat value :: bytes, rest)

theorem length_takeBytes_le (n : Nat) (bits : List Bool) :
    (takeBytes n bits).2.length ≤ bits.length := by
  induction n generalizing bits with
  | zero => exact Nat.le_refl _
  | succ n ih =>
    rw [takeBytes]
    cases h : number 8 bits with
    | error halt => exact Nat.zero_le _
    | ok read => exact Nat.le_trans (ih read.2) (shrinks_number 8 bits read.1 read.2 h)

/-! ## Codes -/

/-- The symbols of a code: those whose codes are one bit long, those with two bits, and so on, each
in their order. -/
abbrev PrefixCode := List (List Nat)

/-- The most bits of a code. -/
def maxCodeLength : Nat := 15

/-- The longest of some code lengths. -/
def longest (lengths : List Nat) : Nat :=
  lengths.foldl max 0

/-- The code with given lengths, one for each symbol. A symbol of length zero has no code. -/
def PrefixCode.ofLengths (lengths : List Nat) : PrefixCode :=
  (List.range (max 1 (longest lengths))).map fun n =>
    (lengths.zipIdx.filter fun entry => entry.1 = n + 1).map (·.2)

/-- How much of all bit sequences some code lengths take up, in units of the longest code. -/
def codeWeight (lengths : List Nat) : Nat :=
  Numeric.total ((lengths.filter (· ≠ 0)).map fun length => Nat.pow 2 (maxCodeLength - length))

/-- Whether code lengths leave nothing over, or belong to no symbol at all. -/
def isComplete (lengths : List Nat) : Bool :=
  longest lengths = 0 || codeWeight lengths = Nat.pow 2 maxCodeLength

/-- Whether code lengths leave nothing over, or belong to at most one symbol, of one bit. -/
def isUsable (lengths : List Nat) : Bool :=
  isComplete lengths || longest lengths = 1 && codeWeight lengths < Nat.pow 2 maxCodeLength

/-- The symbol whose code comes next, if any code does; `offset` is what the bits read so far make
in excess of the codes of their length. -/
def readSymbol : PrefixCode → (offset : Nat) → BitReader (Option Nat)
  | [], _ => pure none
  | symbols :: longer, offset => do
    let b ← bit
    let offset := 2 * offset + b.toNat
    match symbols[offset]? with
    | some symbol => pure (some symbol)
    | none => readSymbol longer (offset - symbols.length)

theorem shrinks_readSymbol (code : PrefixCode) (offset : Nat) :
    Shrinks (readSymbol code offset) := by
  induction code generalizing offset with
  | nil => exact shrinks_pure none
  | cons symbols longer ih =>
    refine shrinks_bit.bind fun b => ?_
    dsimp only
    split
    · exact shrinks_pure _
    · exact ih _

theorem length_of_readSymbol {code : PrefixCode} {offset : Nat} {bits rest : List Bool}
    {symbol : Nat} (h : readSymbol code offset bits = .ok (some symbol, rest)) :
    rest.length < bits.length := by
  cases code with
  | nil => cases h
  | cons symbols longer =>
    cases bits with
    | nil => cases h
    | cons b bits =>
      refine Nat.lt_succ_of_le ?_
      cases found : symbols[2 * offset + b.toNat]? with
      | some first =>
        have read :
            (pure (some first) : BitReader (Option Nat)) bits = .ok (some symbol, rest) := by
          simpa only [readSymbol, bit_bind, found] using h
        exact shrinks_pure _ _ _ _ read
      | none =>
        have read : readSymbol longer (2 * offset + b.toNat - symbols.length) bits =
            .ok (some symbol, rest) := by
          simpa only [readSymbol, bit_bind, found] using h
        exact shrinks_readSymbol _ _ _ _ _ read

/-! ## Blocks with codes -/

/-- What a symbol of a block says. -/
inductive Token
  | literal (b : UInt8)
  | endOfBlock
  | copy (length distance : Nat)

/-- The least length of a copy and the number of bits that add to it, by symbol from 257 on. -/
def copyLengths : List (Nat × Nat) :=
  [(3, 0), (4, 0), (5, 0), (6, 0), (7, 0), (8, 0), (9, 0), (10, 0), (11, 1), (13, 1), (15, 1),
   (17, 1), (19, 2), (23, 2), (27, 2), (31, 2), (35, 3), (43, 3), (51, 3), (59, 3), (67, 4),
   (83, 4), (99, 4), (115, 4), (131, 5), (163, 5), (195, 5), (227, 5), (258, 0)]

/-- The least distance of a copy and the number of bits that add to it, by symbol. -/
def copyDistances : List (Nat × Nat) :=
  [(1, 0), (2, 0), (3, 0), (4, 0), (5, 1), (7, 1), (9, 2), (13, 2), (17, 3), (25, 3), (33, 4),
   (49, 4), (65, 5), (97, 5), (129, 6), (193, 6), (257, 7), (385, 7), (513, 8), (769, 8),
   (1025, 9), (1537, 9), (2049, 10), (3073, 10), (4097, 11), (6145, 11), (8193, 12), (12289, 12),
   (16385, 13), (24577, 13)]

structure BlockCodes where
  literals : PrefixCode
  distances : PrefixCode

/-- The rest of a copy after its first symbol. -/
def readCopy (codes : BlockCodes) (length : Nat × Nat) : BitReader Token := do
  let longer ← number length.2
  match (← readSymbol codes.distances 0).bind (copyDistances[·]?) with
  | none => fail .distanceSymbol
  | some distance => pure (.copy (length.1 + longer) (distance.1 + (← number distance.2)))

/-- What a symbol says, together with the bits that belong to it. -/
def readTokenOf (codes : BlockCodes) (symbol : Nat) : BitReader Token :=
  if symbol < 256 then pure (.literal (.ofNat symbol))
  else if symbol = 256 then pure .endOfBlock
  else
    match copyLengths[symbol - 257]? with
    | none => fail .literalSymbol
    | some length => readCopy codes length

def readToken (codes : BlockCodes) : BitReader Token := do
  match ← readSymbol codes.literals 0 with
  | none => fail .literalSymbol
  | some symbol => readTokenOf codes symbol

theorem shrinks_readTokenOf (codes : BlockCodes) (symbol : Nat) :
    Shrinks (readTokenOf codes symbol) := by
  rw [readTokenOf]
  split
  · exact shrinks_pure _
  · split
    · exact shrinks_pure _
    · split
      · exact shrinks_fail _
      · refine (shrinks_number _).bind fun _ => (shrinks_readSymbol _ _).bind fun _ => ?_
        split
        · exact shrinks_fail _
        · exact (shrinks_number _).bind fun _ => shrinks_pure _

theorem length_of_readToken {codes : BlockCodes} {bits rest : List Bool} {token : Token}
    (h : readToken codes bits = .ok (token, rest)) : rest.length < bits.length := by
  change (readSymbol codes.literals 0 bits >>= fun read => _) = _ at h
  cases first : readSymbol codes.literals 0 bits with
  | error halt =>
    rw [first] at h
    cases h
  | ok read =>
    rw [first] at h
    obtain ⟨symbol, bits'⟩ := read
    cases symbol with
    | none => cases h
    | some symbol =>
      exact Nat.lt_of_le_of_lt (shrinks_readTokenOf codes symbol bits' token rest h)
        (length_of_readSymbol first)

/-- Copies bytes one by one from a distance before; `output` holds what has been unpacked, the last
byte first. -/
def copyBack (distance : Nat) : (length : Nat) → (output : Bytes) → Bytes
  | 0, output => output
  | n + 1, output => copyBack distance n (output.getD (distance - 1) 0 :: output)

/-- Unpacks a block up to its end, after what has been unpacked before it, the last byte first. -/
def readTokens (codes : BlockCodes) (output : Bytes) (bits : List Bool) :
    Bytes × Except Halt (List Bool) :=
  match _h : readToken codes bits with
  | .error halt => (output, .error halt)
  | .ok (.endOfBlock, rest) => (output, .ok rest)
  | .ok (.literal b, rest) => readTokens codes (b :: output) rest
  | .ok (.copy length distance, rest) =>
    if output.length < distance then (output, .error (.fault .tooFarBack))
    else readTokens codes (copyBack distance length output) rest
termination_by bits.length
decreasing_by all_goals exact length_of_readToken _h

theorem length_of_readTokens {codes : BlockCodes} {output : Bytes} {bits rest : List Bool}
    (h : (readTokens codes output bits).2 = .ok rest) : rest.length ≤ bits.length := by
  fun_induction readTokens codes output bits with
  | case1 => cases h
  | case2 output bits rest' read =>
    obtain rfl := Except.ok.inj h
    exact Nat.le_of_lt (length_of_readToken read)
  | case3 output bits b rest' read ih =>
    exact Nat.le_trans (ih h) (Nat.le_of_lt (length_of_readToken read))
  | case4 => cases h
  | case5 output bits length distance rest' read near ih =>
    exact Nat.le_trans (ih h) (Nat.le_of_lt (length_of_readToken read))

/-! ## Codes of a block -/

/-- The lengths of the fixed codes for bytes and lengths. -/
def fixedLiterals : List Nat :=
  List.replicate 144 8 ++ List.replicate 112 9 ++ List.replicate 24 7 ++ List.replicate 8 8

def fixedCodes : BlockCodes :=
  ⟨.ofLengths fixedLiterals, .ofLengths (List.replicate 32 5)⟩

/-- The order in which the lengths of the codes for code lengths stand. -/
def lengthOrder : List Nat :=
  [16, 17, 18, 0, 8, 7, 9, 6, 10, 5, 11, 4, 12, 3, 13, 2, 14, 1, 15]

/-- A code length and how many times more it is repeated. A code without symbols stands for zeros,
and a repetition needs a length before it, which `last` is. -/
def readRun (code : PrefixCode) (last : Option Nat) : BitReader (Nat × Nat) := do
  match (← readSymbol code 0).getD 0 with
  | 16 =>
    let times ← number 2
    match last with
    | none => fail .repetition
    | some length => pure (length, times + 2)
  | 17 => pure (0, (← number 3) + 2)
  | 18 => pure (0, (← number 7) + 10)
  | length => pure (length, 0)

/-- Code lengths up to a number of them; `lengths` holds those before, the last one first. -/
def readLengths (code : PrefixCode) (count : Nat) (lengths : List Nat) : BitReader (List Nat) :=
  if lengths.length < count then do
    let (length, more) ← readRun code lengths.head?
    if count < lengths.length + more + 1 then fail .repetition
    else readLengths code count (List.replicate (more + 1) length ++ lengths)
  else pure lengths.reverse
termination_by count - lengths.length
decreasing_by simp only [List.length_append, List.length_replicate]; omega

/-- The codes for two numbers of symbols with some code lengths. -/
def codesOf (literals : Nat) (lengths : List Nat) : BitReader BlockCodes :=
  if lengths.getD 256 0 = 0 then fail .noEndOfBlock
  else if !isUsable (lengths.take literals) then fail .literalCodes
  else if !isUsable (lengths.drop literals) then fail .distanceCodes
  else pure ⟨.ofLengths (lengths.take literals), .ofLengths (lengths.drop literals)⟩

/-- The code for code lengths, of which so many have a length that is given. -/
def readLengthCode (given : Nat) : BitReader PrefixCode := do
  let found := lengthOrder.zip (← numbers 3 given)
  let lengths := (List.range lengthOrder.length).map fun symbol => (found.lookup symbol).getD 0
  if isComplete lengths then pure (.ofLengths lengths) else fail .lengthCodes

def readCodes : BitReader BlockCodes := do
  let literals := (← number 5) + 257
  let distances := (← number 5) + 1
  let given := (← number 4) + 4
  if 286 < literals ∨ 30 < distances then fail .tooManySymbols
  else
    let code ← readLengthCode given
    codesOf literals (← readLengths code (literals + distances) [])

theorem shrinks_readRun (code : PrefixCode) (last : Option Nat) : Shrinks (readRun code last) := by
  refine (shrinks_readSymbol code 0).bind fun symbol => ?_
  split
  · refine (shrinks_number 2).bind fun times => ?_
    split
    · exact shrinks_fail _
    · exact shrinks_pure _
  · exact (shrinks_number 3).bind fun _ => shrinks_pure _
  · exact (shrinks_number 7).bind fun _ => shrinks_pure _
  · exact shrinks_pure _

theorem shrinks_readLengths (code : PrefixCode) (count : Nat) (lengths : List Nat) :
    Shrinks (readLengths code count lengths) := by
  fun_induction readLengths code count lengths with
  | case1 lengths fewer ih =>
    refine (shrinks_readRun code lengths.head?).bind fun run => ?_
    dsimp only
    split
    · exact shrinks_fail _
    · next fits => exact ih run.1 run.2 fits
  | case2 => exact shrinks_pure _

theorem shrinks_readCodes : Shrinks readCodes := by
  refine (shrinks_number 5).bind fun literals => (shrinks_number 5).bind fun distances =>
    (shrinks_number 4).bind fun given => ?_
  dsimp only
  split
  · exact shrinks_fail _
  · refine ((shrinks_numbers 3 _).bind fun values => ?_).bind fun code =>
      (shrinks_readLengths code _ []).bind fun lengths => ?_
    · dsimp only
      split
      · exact shrinks_pure _
      · exact shrinks_fail _
    · rw [codesOf]
      split
      · exact shrinks_fail _
      · split
        · exact shrinks_fail _
        · split
          · exact shrinks_fail _
          · exact shrinks_pure _

/-! ## Runs of blocks -/

/-- The length of a block that holds bytes as they are: it stands at the beginning of a byte, and
its complement after it. -/
def readStoredLength : BitReader Nat := do
  modify fun bits => bits.drop (bits.length % 8)
  let length ← number 16
  let complement ← number 16
  if length + complement = 0xFFFF then pure length else fail .storedLengths

/-- Unpacks a block of a kind. -/
def readBlock (kind : Nat) (output : Bytes) (bits : List Bool) : Bytes × Except Halt (List Bool) :=
  match kind with
  | 0 =>
    match readStoredLength bits with
    | .error halt => (output, .error halt)
    | .ok (length, bits) =>
      let (bytes, rest) := takeBytes length bits
      (bytes.reverse ++ output, if bytes.length < length then .error .exhausted else .ok rest)
  | 1 => readTokens fixedCodes output bits
  | 2 =>
    match readCodes bits with
    | .error halt => (output, .error halt)
    | .ok (codes, bits) => readTokens codes output bits
  | _ => (output, .error (.fault .blockKind))

theorem shrinks_readStoredLength : Shrinks readStoredLength := by
  have aligned : Shrinks (modify fun bits => bits.drop (bits.length % 8) : BitReader PUnit) := by
    intro bits _ rest h
    obtain ⟨-, rfl⟩ := Prod.mk.inj (Except.ok.inj h)
    simp
  refine aligned.bind fun _ => (shrinks_number 16).bind fun _ =>
    (shrinks_number 16).bind fun _ => ?_
  split
  · exact shrinks_pure _
  · exact shrinks_fail _

theorem length_of_readBlock {kind : Nat} {output : Bytes} {bits rest : List Bool}
    (h : (readBlock kind output bits).2 = .ok rest) : rest.length ≤ bits.length := by
  match kind with
  | 0 =>
    rw [readBlock] at h
    split at h
    · cases h
    · next length bits' read =>
      dsimp only at h
      split at h
      · cases h
      · obtain rfl := Except.ok.inj h
        exact Nat.le_trans (length_takeBytes_le _ _) (shrinks_readStoredLength _ _ _ read)
  | 1 => exact length_of_readTokens h
  | 2 =>
    rw [readBlock] at h
    split at h
    · cases h
    · next codes bits' read =>
      exact Nat.le_trans (length_of_readTokens h) (shrinks_readCodes _ _ _ read)
  | _ + 3 => cases h

/-- What unpacking has come to: the bytes so far, and whether it has come to the end. -/
structure Unpacked where
  data : Bytes
  ended : Bool
  deriving DecidableEq, Repr

/-- What heads a block: whether it is the last one, and its kind. -/
def readHead : BitReader (Nat × Nat) := do
  pure (← number 1, ← number 2)

theorem length_of_readHead {bits rest : List Bool} {head : Nat × Nat}
    (h : readHead bits = .ok (head, rest)) : rest.length < bits.length := by
  cases bits with
  | nil => cases h
  | cons b bits =>
    have shrinks (last : Nat) : Shrinks (do pure (last, ← number 2) : BitReader (Nat × Nat)) :=
      (shrinks_number 2).bind fun _ => shrinks_pure _
    exact Nat.lt_succ_of_le (shrinks _ bits head rest h)

/-- Unpacks a run of blocks; `output` holds what has been unpacked before, the last byte first. -/
def inflateBlocks (output : Bytes) (bits : List Bool) : Except UnpackFault Unpacked :=
  match _head : readHead bits with
  | .error .exhausted => .ok ⟨output.reverse, false⟩
  | .error (.fault fault) => .error fault
  | .ok ((last, kind), bits') =>
    match _block : readBlock kind output bits' with
    | (_, .error (.fault fault)) => .error fault
    | (output, .error .exhausted) => .ok ⟨output.reverse, false⟩
    | (output, .ok rest) =>
      if last = 1 then .ok ⟨output.reverse, true⟩ else inflateBlocks output rest
termination_by bits.length
decreasing_by
  exact Nat.lt_of_le_of_lt (length_of_readBlock (congrArg Prod.snd _block))
    (length_of_readHead _head)

/-- Unpacks data. -/
def inflate (packed : Bytes) : Except UnpackFault Unpacked :=
  inflateBlocks [] (bitsOf packed)

end SlideMerge.Archive
