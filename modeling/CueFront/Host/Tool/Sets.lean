import CueFront.Host.Tool.Basic

/-!
# Tools that work on bytes and fields

`tr` replaces, deletes and squeezes bytes.  `cut` keeps a part of each line.
-/

namespace CueFront

namespace Host

namespace Tool

/-! ## Sets of bytes -/

/-- A byte that can be written as an escape, and the text behind it. -/
def setByte (text : Bytes) : Option (UInt8 × Bytes) :=
  match text with
  | [] => none
  | Byte.backslash :: rest =>
    match rest with
    | [] => some (92, [])
    | b :: more =>
      let digits := (rest.take 3).takeWhile fun b => 48 ≤ b && b ≤ 55
      if !digits.isEmpty then
        let value := digits.foldl (fun n b => n * 8 + (b.toNat - 48)) 0
        some (UInt8.ofNat value, rest.drop digits.length)
      else
        let named : List (Char × UInt8) :=
          [('a', 7), ('b', 8), ('f', 12), ('n', 10), ('r', 13), ('t', 9), ('v', 11)]
        match named.find? fun entry => Byte.of entry.1 == b with
        | some entry => some (entry.2, more)
        | none => some (b, more)
  | b :: rest => some (b, rest)

/-- All bytes in order. -/
def allBytes : Bytes := (List.range 256).map UInt8.ofNat

/-- The bytes of a named class, in order. -/
def classBytes? (name : Bytes) : Option Bytes :=
  let printable (b : UInt8) : Bool := 32 ≤ b && b < 127
  let tests : List (String × (UInt8 → Bool)) :=
    [("alpha", Byte.isAlpha), ("digit", Byte.isDigit), ("alnum", Byte.isAlphanumeric),
      ("upper", Byte.isUpper), ("lower", Byte.isLower), ("space", Byte.isSpace),
      ("blank", fun b => b == Byte.space || b == Byte.tab),
      ("cntrl", fun b => b < 32 || b == Byte.delete),
      ("print", printable), ("graph", fun b => printable b && b != Byte.space),
      ("punct", fun b => printable b && b != Byte.space && !Byte.isAlphanumeric b),
      ("xdigit", fun b => (Byte.hexValue? b).isSome)]
  (tests.find? (utf8 ·.1 == name)).map fun test => allBytes.filter test.2

/-- The bytes from one to another. -/
def byteRange (first last : UInt8) : Bytes :=
  (List.range (last.toNat + 1 - first.toNat)).map fun n => UInt8.ofNat (first.toNat + n)

/-- The bytes of a set, or what is wrong with it.  A repeat without number fills up. -/
def setBytes (fill : Nat) : Nat → Bytes → Except Bytes Bytes
  | 0, _ => .ok []
  | fuel + 1, text => do
    match text with
    | [] => return []
    | Byte.openBracket :: Byte.colon :: rest =>
      let name := rest.takeWhile (· != Byte.colon)
      match rest.drop name.length with
      | Byte.colon :: Byte.closeBracket :: rest =>
        match classBytes? name with
        | some bytes => return bytes ++ (← setBytes fill fuel rest)
        | none => .error (utf8 "invalid character class " ++ quoted name)
      | _ => return Byte.openBracket :: (← setBytes fill fuel (Byte.colon :: rest))
    | Byte.openBracket :: b :: Byte.star :: rest =>
      let digits := rest.takeWhile Byte.isDigit
      match rest.drop digits.length with
      | Byte.closeBracket :: rest =>
        let count := if digits.isEmpty then fill else Decimal.value digits
        return List.replicate count b ++ (← setBytes fill fuel rest)
      | _ => return Byte.openBracket :: (← setBytes fill fuel (b :: Byte.star :: rest))
    | _ =>
      match setByte text with
      | none => return []
      | some (first, rest) =>
        match rest with
        | Byte.hyphen :: more =>
          match setByte more with
          | some (last, behind) =>
            if last < first then
              .error (utf8 "range-endpoints of " ++
                quoted (text.take (text.length - behind.length)) ++
                utf8 " are in reverse collating sequence order")
            else return byteRange first last ++ (← setBytes fill fuel behind)
          | none => return [first, 45]
        | _ => return first :: (← setBytes fill fuel rest)

/-- Leaves one of several equal bytes that are in a set; the last byte is carried along. -/
def squeeze (inSet : UInt8 → Bool) : Bytes → Option UInt8 → Bytes × Option UInt8
  | text, last =>
    let (kept, last) := text.foldl (fun (kept, last) b =>
      if last == some b && inSet b then (kept, last) else (b :: kept, some b)) ([], last)
    (kept.reverse, last)

/-- A table of the bytes that others become. -/
def replacements (source target : Bytes) : Array UInt8 :=
  let padded := target ++ List.replicate (source.length - target.length) (target.getLastD 0)
  (source.zip padded).foldl (fun table (b, image) => table.setIfInBounds b.toNat image)
    (allBytes.toArray)

/-- A table of the bytes in a set. -/
def membership (set : Bytes) : Array Bool :=
  set.foldl (fun table b => table.setIfInBounds b.toNat true) (Array.replicate 256 false)

/-- Replaces, deletes and squeezes bytes. -/
def tr : Tool := withOptions
    [⟨'c', "complement", false⟩, ⟨'C', "", false⟩, ⟨'d', "delete", false⟩,
      ⟨'s', "squeeze-repeats", false⟩, ⟨'t', "truncate-set1", false⟩] false 1
    fun name arguments _ => do
  let deletes := arguments.has 'd'
  let squeezes := arguments.has 's'
  let complement := arguments.has 'c' || arguments.has 'C'
  let expand (fill : Nat) (text : Bytes) := setBytes fill (text.length + 1) text
  let sets : Except Bytes (Bytes × Option Bytes) := do
    match arguments.operands with
    | [] => .error (utf8 "missing operand")
    | [first] =>
      if deletes == squeezes then
        let what := if deletes then utf8 "both deleting and squeezing repeats"
          else utf8 "translating"
        .error (utf8 "missing operand after " ++ quoted first ++
          utf8 "\nTwo strings must be given when " ++ what ++ [Byte.dot])
      else return (← expand 0 first, none)
    | [first, second] =>
      if deletes && !squeezes then
        .error (utf8 "extra operand " ++ quoted second ++
          utf8 "\nOnly one string may be given when deleting without squeezing repeats.")
      else
        let source ← expand 0 first
        return (source, some (← expand source.length second))
    | _ :: _ :: third :: _ => .error (utf8 "extra operand " ++ quoted third)
  match sets with
  | .error problem => misuse name problem 1
  | .ok (source, target) => do
    let source := if complement then
        let members := membership source
        allBytes.filter fun b => !members.getD b.toNat false
      else source
    let sourceTable := membership source
    let inSource (b : UInt8) : Bool := sourceTable.getD b.toNat false
    let table := replacements source (target.getD [])
    let change (text : Bytes) : Bytes :=
      if deletes then text.filter (!inSource ·)
      else
        match target with
        | some (_ :: _) => text.map fun b => table.getD b.toNat b
        | _ => text
    let squeezed := membership (target.getD source)
    let inSqueezed (b : UInt8) : Bool := squeezed.getD b.toNat false
    let result ← foldParts name (utf8 "read error") 0 (fun (last : Option UInt8) part => do
      let text := change part
      let (text, last) := if squeezes then squeeze inSqueezed text last else (text, last)
      if !text.isEmpty then say name text
      return .more last) Task.ampleSteps none
    return if result.isSome then 0 else 1

/-! ## Parts of lines -/

/-- A list of ranges of numbers; a range without end goes on. -/
def ranges? (text : Bytes) : Option (List (Nat × Option Nat)) :=
  (Bytes.splitOn Byte.comma text).mapM fun piece =>
    let first := piece.takeWhile Byte.isDigit
    match piece.drop first.length with
    | [] => if first.isEmpty || Decimal.value first == 0 then none
      else some (Decimal.value first, some (Decimal.value first))
    | Byte.hyphen :: last =>
      if last.isEmpty then
        if first.isEmpty then none else some (Decimal.value first, none)
      else if Decimal.isNumeral last then
        let low := if first.isEmpty then 1 else Decimal.value first
        if low == 0 || Decimal.value last < low then none
        else some (low, some (Decimal.value last))
      else none
    | _ => none

/-- Whether a number is in one of the ranges. -/
def inRanges (ranges : List (Nat × Option Nat)) (n : Nat) : Bool :=
  ranges.any fun (low, high) => low ≤ n && (match high with | some high => n ≤ high | none => true)

/-- The members of a list whose numbers, from one on, are in the ranges. -/
def pick {α : Type} (ranges : List (Nat × Option Nat)) (items : List α) : List α :=
  (items.zipIdx 1).filterMap fun (item, n) => if inRanges ranges n then some item else none

/-- Keeps a part of each line. -/
def cut : Tool := withOptions
    [⟨'b', "bytes", true⟩, ⟨'c', "characters", true⟩, ⟨'f', "fields", true⟩,
      ⟨'d', "delimiter", true⟩, ⟨'s', "only-delimited", false⟩, ⟨'n', "", false⟩,
      ⟨'o', "output-delimiter", true⟩] true 1 fun name arguments _ => do
  let byBytes := (arguments.value? 'b').or (arguments.value? 'c')
  match byBytes.or (arguments.value? 'f') with
  | none => misuse name (utf8 "you must specify a list of bytes, characters, or fields") 1
  | some list =>
    match ranges? list with
    | none =>
      misuse name (if byBytes.isSome then utf8 "invalid byte/character position " ++ quoted list
        else utf8 "invalid field value " ++ quoted list) 1
    | some ranges => do
      let delimiter := ((arguments.value? 'd').getD [9]).headD 0
      let joiner := (arguments.value? 'o').getD [delimiter]
      let handle (line : Bytes) : Option Bytes :=
        if byBytes.isSome then some (pick ranges line)
        else
          let fields := Bytes.splitOn delimiter line
          if fields.length == 1 then if arguments.has 's' then none else some line
          else some (Bytes.joinWith joiner (pick ranges fields))
      eachInput name arguments.operands fun path descriptor => do
        let result ← foldLines name path descriptor (fun (state : Unit) line _ =>
          (.more state, ((handle line).map ended).getD [])) ()
        return if result.isSome then 0 else 1

end Tool

end Host

end CueFront
