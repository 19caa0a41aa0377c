/-! # Deflated bytes

The **deflate** form of bytes is a row of blocks, read bit by bit from the lowest bit of each byte on. A block holds
bytes as they are, or symbols in two codes: literal bytes and lengths in one, distances in the other. A length
and a distance repeat bytes that were written before. The codes are fixed, or given by the lengths of their
words at the start of the block.

A row that breaks off is no fault: what was written up to there counts. -/

namespace SearchTables.Http

/-- What is wrong with deflated bytes. -/
inductive InflateFault where
  | badHeader
  | unknownMethod
  | badWindow
  | needsDictionary
  | badChecksum
  | badBlockType
  | badStoredLength
  | tooManySymbols
  | badLengthCode
  | badRepeat
  | noEndOfBlock
  | badLiteralCode
  | badDistanceCode
  | badLiteral
  | badDistance
  | distanceTooFar
deriving DecidableEq, Repr

/-- The fault in words. -/
def InflateFault.message : InflateFault → String
  | .badHeader => "incorrect header check"
  | .unknownMethod => "unknown compression method"
  | .badWindow => "invalid window size"
  | .needsDictionary => "need dictionary"
  | .badChecksum => "incorrect data check"
  | .badBlockType => "invalid block type"
  | .badStoredLength => "invalid stored block lengths"
  | .tooManySymbols => "too many length or distance symbols"
  | .badLengthCode => "invalid code lengths set"
  | .badRepeat => "invalid bit length repeat"
  | .noEndOfBlock => "invalid code -- missing end-of-block"
  | .badLiteralCode => "invalid literal/lengths set"
  | .badDistanceCode => "invalid distances set"
  | .badLiteral => "invalid literal/length code"
  | .badDistance => "invalid distance code"
  | .distanceTooFar => "invalid distance too far back"

/-! ## Bits -/

/-- Bits in the order in which they are read. -/
abbrev Bits := List Bool

/-- The bits of a byte, the lowest first. -/
def bitsOfByte (b : Nat) : Bits := (List.range 8).map fun i => b / Nat.pow 2 i % 2 == 1

/-- The number that bits make, the lowest first. -/
def bitsValue (bits : Bits) : Nat := bits.foldr (fun bit n => 2 * n + bit.toNat) 0

/-- Take a number of so many bits. -/
def takeBits (count : Nat) (bits : Bits) : Option (Nat × Bits) :=
  if bits.length < count then none else some (bitsValue (bits.take count), bits.drop count)

/-- Skip what is left of a byte. -/
def alignBits (bits : Bits) : Bits := bits.drop (bits.length % 8)

/-- The bytes of whole bits; bits of an unfinished byte are left out. -/
def bytesOfBits (bits : Bits) : List Nat :=
  (List.range (bits.length / 8)).map fun i => bitsValue ((bits.drop (8 * i)).take 8)

/-! ## Codes -/

/-- A code by the lengths of its words: how many symbols there are of each length, from one on, and the
symbols in the order of their words. -/
structure WordCode where
  counts : List Nat
  symbols : List Nat
deriving DecidableEq, Repr

/-- The longest word. -/
def maxWordLength : Nat := 15

/-- The code in which each symbol has a word of the length at its place; a symbol of length zero has
none. -/
def WordCode.ofLengths (lengths : List Nat) : WordCode :=
  let used := lengths.zipIdx
  let longest := max 1 (lengths.foldl max 0)
  let ofLength (n : Nat) := (used.filter (·.1 == n)).map (·.2)
  let rows := (List.range longest).map fun n => ofLength (n + 1)
  ⟨rows.map List.length, rows.flatten⟩

/-- How much of the room for words the words of some lengths take up, where a word of the greatest length takes
up one. -/
def roomTaken (lengths : List Nat) : Nat :=
  lengths.foldl (fun sum n => if n = 0 then sum else sum + Nat.pow 2 (maxWordLength - n)) 0

/-- Whether lengths make a code: their words fill the room. A single word of one bit may leave half of it, if
that is tolerated, and there may be no words at all. -/
def makesCode (tolerant : Bool) (lengths : List Nat) : Bool :=
  let room := Nat.pow 2 maxWordLength
  let taken := roomTaken lengths
  taken == room || taken == 0 || (tolerant && taken < room && lengths.all (· ≤ 1))

/-- What is found where a word is looked for. -/
inductive WordFound where
  | symbol (symbol : Nat) (rest : Bits)
  /-- The bits end within the word. -/
  | cut
  /-- The bits start no word. -/
  | noWord

/-- Look for a word among those of the lengths to come, after the bits that were read: they make a number, which
is compared with the first word of that length. -/
def findWord (symbols : List Nat) : List Nat → Nat → Nat → Bits → WordFound
  | [], _, _, _ => .noWord
  | _ :: _, _, _, [] => .cut
  | count :: counts, code, first, bit :: rest =>
      let code := 2 * code + bit.toNat
      let first := 2 * first
      if code < first + count then
        match symbols[code - first]? with
        | some symbol => .symbol symbol rest
        | none => .noWord
      else findWord (symbols.drop count) counts code (first + count) rest

/-- The symbol of the word that bits start with. -/
def WordCode.find (c : WordCode) (bits : Bits) : WordFound := findWord c.symbols c.counts 0 0 bits

/-! ## Symbols -/

/-- The least length of a symbol, and how many bits add to it. -/
def lengthSymbols : List (Nat × Nat) := [
  (3, 0), (4, 0), (5, 0), (6, 0), (7, 0), (8, 0), (9, 0), (10, 0), (11, 1), (13, 1), (15, 1), (17, 1), (19, 2),
  (23, 2), (27, 2), (31, 2), (35, 3), (43, 3), (51, 3), (59, 3), (67, 4), (83, 4), (99, 4), (115, 4), (131, 5),
  (163, 5), (195, 5), (227, 5), (258, 0)]

/-- The least distance of a symbol, and how many bits add to it. -/
def distanceSymbols : List (Nat × Nat) := [
  (1, 0), (2, 0), (3, 0), (4, 0), (5, 1), (7, 1), (9, 2), (13, 2), (17, 3), (25, 3), (33, 4), (49, 4), (65, 5),
  (97, 5), (129, 6), (193, 6), (257, 7), (385, 7), (513, 8), (769, 8), (1025, 9), (1537, 9), (2049, 10),
  (3073, 10), (4097, 11), (6145, 11), (8193, 12), (12289, 12), (16385, 13), (24577, 13)]

/-- The symbol that ends a block. -/
def endOfBlock : Nat := 256

/-- The codes of a block: one of literals and lengths, one of distances. -/
structure BlockCodes where
  literals : WordCode
  distances : WordCode

/-- The codes that are fixed. -/
def fixedCodes : BlockCodes :=
  { literals :=
      .ofLengths
        (List.replicate 144 8 ++ List.replicate 112 9 ++ List.replicate 24 7 ++ List.replicate 8 8)
    distances := .ofLengths (List.replicate 32 5) }

/-- How reading went on: to bits that are left, or to where the bits break off. -/
inductive Inflation where
  | more (written : Array Nat) (rest : Bits)
  | cut (written : Array Nat)

/-- Repeat bytes that were written before. -/
def repeatBytes (distance : Nat) : Nat → Array Nat → Array Nat
  | 0, written => written
  | count + 1, written =>
      repeatBytes distance count (written.push ((written[written.size - distance]?).getD 0))

/-- Read a distance and repeat so many bytes from there. -/
def inflateMatch (codes : BlockCodes) (length : Nat) (written : Array Nat) (bits : Bits) :
    Except InflateFault Inflation :=
  match codes.distances.find bits with
  | .cut => .ok (.cut written)
  | .noWord => .error .badDistance
  | .symbol symbol bits =>
      match distanceSymbols[symbol]? with
      | none => .error .badDistance
      | some (least, extra) =>
          match takeBits extra bits with
          | none => .ok (.cut written)
          | some (added, bits) =>
              if written.size < least + added then .error .distanceTooFar
              else .ok (.more (repeatBytes (least + added) length written) bits)

/-- Read symbols to the end of a block, at most so many. -/
def inflateSymbols (codes : BlockCodes) : Nat → Array Nat → Bits → Except InflateFault Inflation
  | 0, written, _ => .ok (.cut written)
  | fuel + 1, written, bits =>
      match codes.literals.find bits with
      | .cut => .ok (.cut written)
      | .noWord => .error .badLiteral
      | .symbol symbol bits =>
          if symbol < endOfBlock then inflateSymbols codes fuel (written.push symbol) bits
          else if symbol = endOfBlock then .ok (.more written bits)
          else
            match lengthSymbols[symbol - endOfBlock - 1]? with
            | none => .error .badLiteral
            | some (least, extra) =>
                match takeBits extra bits with
                | none => .ok (.cut written)
                | some (added, bits) => do
                    match ← inflateMatch codes (least + added) written bits with
                    | .cut written => .ok (.cut written)
                    | .more written bits => inflateSymbols codes fuel written bits

/-- Read a block of bytes as they are. -/
def inflateStored (written : Array Nat) (bits : Bits) : Except InflateFault Inflation :=
  match takeBits 32 (alignBits bits) with
  | none => .ok (.cut written)
  | some (lengths, bits) =>
      let length := lengths % 0x10000
      if length + lengths / 0x10000 ≠ 0xffff then .error .badStoredLength
      else
        let found := written ++ (bytesOfBits (bits.take (8 * length))).toArray
        .ok (if bits.length < 8 * length then .cut found else .more found (bits.drop (8 * length)))

/-! ## Codes at the start of a block -/

/-- The order in which the lengths of the words for lengths are given. -/
def lengthOrder : List Nat := [16, 17, 18, 0, 8, 7, 9, 6, 10, 5, 11, 4, 12, 3, 13, 2, 14, 1, 15]

/-- Read so many numbers of three bits. -/
def takeTriples : Nat → Bits → Option (List Nat × Bits)
  | 0, bits => some ([], bits)
  | count + 1, bits => do
      let (n, bits) ← takeBits 3 bits
      let (ns, bits) ← takeTriples count bits
      some (n :: ns, bits)

/-- Find a symbol for lengths; a code without words has zeros of one bit each. -/
def findLength (code : WordCode) (bits : Bits) : WordFound :=
  if code.symbols.isEmpty then
    match bits with
    | [] => .cut
    | _ :: rest => .symbol 0 rest
  else code.find bits

/-- Read word lengths until there are so many, after those in reverse that were read, in at most so many
steps. Nothing is left when the bits break off. -/
def readLengths (code : WordCode) (total : Nat) : Nat → List Nat → Bits →
    Except InflateFault (Option (List Nat × Bits))
  | 0, _, _ => .ok none
  | fuel + 1, found, bits =>
      if total ≤ found.length then .ok (some (found.reverse, bits))
      else
        let repeated (length extra least : Nat) (bits : Bits) :=
          match takeBits extra bits with
          | none => .ok none
          | some (added, bits) =>
              if total < found.length + least + added then .error .badRepeat
              else readLengths code total fuel (List.replicate (least + added) length ++ found) bits
        match findLength code bits with
        | .cut => .ok none
        | .noWord => .error .badLengthCode
        | .symbol symbol bits =>
            -- below sixteen a length stands for itself, and the others repeat one
            if symbol < 16 then readLengths code total fuel (symbol :: found) bits
            else if symbol = 16 then
              match takeBits 2 bits, found with
              | none, _ => .ok none
              | some _, [] => .error .badRepeat
              | some _, last :: _ => repeated last 2 3 bits
            else if symbol = 17 then repeated 0 3 3 bits
            else repeated 0 7 11 bits

/-- Read the codes of a block. -/
def readCodes (bits : Bits) : Except InflateFault (Option (BlockCodes × Bits)) :=
  match takeBits 14 bits with
  | none => .ok none
  | some (sizes, bits) =>
      let literals := sizes % 32 + 257
      let distances := sizes / 32 % 32 + 1
      let count := sizes / 1024 + 4
      if 286 < literals ∨ 30 < distances then .error .tooManySymbols
      else
        match takeTriples count bits with
        | none => .ok none
        | some (triples, bits) =>
            -- the lengths of the code for lengths come in an order of their own
            let given := lengthOrder.zip triples
            let lengths := (List.range 19).map fun symbol => (given.lookup symbol).getD 0
            if !makesCode false lengths then .error .badLengthCode
            else do
              match ← readLengths (.ofLengths lengths) (literals + distances)
                  (literals + distances + 1) [] bits with
              | none => .ok none
              | some (found, bits) =>
                  let own := found.take literals
                  let others := found.drop literals
                  if own[endOfBlock]?.getD 0 = 0 then .error .noEndOfBlock
                  else if !makesCode true own then .error .badLiteralCode
                  else if !makesCode true others then .error .badDistanceCode
                  else .ok (some (⟨.ofLengths own, .ofLengths others⟩, bits))

/-- Read blocks to the last one, at most so many: what was written, and the bytes after them unless the bits
break off. -/
def inflateBlocks : Nat → Array Nat → Bits → Except InflateFault (List Nat × Option (List Nat))
  | 0, written, _ => .ok (written.toList, none)
  | fuel + 1, written, bits =>
      match takeBits 3 bits with
      | none => .ok (written.toList, none)
      | some (header, bits) => do
          let inflation ←
            -- stored, with the fixed codes, or with codes of its own
            match header / 2 with
            | 0 => inflateStored written bits
            | 1 => inflateSymbols fixedCodes (bits.length + 1) written bits
            | 2 => do
                match ← readCodes bits with
                | none => .ok (.cut written)
                | some (codes, bits) => inflateSymbols codes (bits.length + 1) written bits
            | _ => .error .badBlockType
          match inflation with
          | .cut written => .ok (written.toList, none)
          | .more written bits =>
              if header % 2 = 1 then .ok (written.toList, some (bytesOfBits (alignBits bits)))
              else inflateBlocks fuel written bits

/-- The bytes that deflated bytes stand for, and those after them unless they break off. -/
def inflate (bytes : List Nat) : Except InflateFault (List Nat × Option (List Nat)) :=
  let bits := bytes.flatMap bitsOfByte
  inflateBlocks (bits.length + 1) #[] bits

/-! ## Wrapped bytes -/

/-- The checksum of bytes: two sums modulo a prime. -/
def checksum (bytes : List Nat) : Nat :=
  let (a, b) := bytes.foldl (fun (a, b) n => ((a + n) % 65521, (b + (a + n) % 65521) % 65521)) (1, 0)
  b * 0x10000 + a

/-- The bytes that deflated bytes with a header of two bytes and a checksum stand for. -/
def unwrapInflate (bytes : List Nat) : Except InflateFault (List Nat) :=
  match bytes with
  | [] | [_] => .ok []
  | method :: flags :: rest =>
      if (method * 256 + flags) % 31 ≠ 0 then .error .badHeader
      else if method % 16 ≠ 8 then .error .unknownMethod
      else if 7 < method / 16 then .error .badWindow
      else if flags / 32 % 2 = 1 then if rest.length < 4 then .ok [] else .error .needsDictionary
      else do
        let (written, after) ← inflate rest
        match after with
        | some (a :: b :: c :: d :: _) =>
            if ((a * 256 + b) * 256 + c) * 256 + d = checksum written then .ok written
            else .error .badChecksum
        | _ => .ok written

end SearchTables.Http
