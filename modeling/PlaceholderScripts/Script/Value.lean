import PlaceholderScripts.Datum
import PlaceholderScripts.Host
import PlaceholderScripts.Number.Shortest
import PlaceholderScripts.Text.Quoted

/-!
# Values of scripts

What a script computes with: simple values, lists and maps of values, ranges, functions, and the
objects that its host hands to it. A stored value becomes a value and back again without a change,
integers beyond 64 bits with a sign apart, which become doubles; functions, ranges and host objects
cannot be stored.
-/

namespace PlaceholderScripts.Script

inductive HostObject where
  | data
  | server (server : Server)
  | player (player : OnlinePlayer)
  | offlinePlayer (player : OfflinePlayer)
  | substitution
  | expansion (info : ExpansionInfo)
  | placeholder (identifier template : String)
  deriving DecidableEq, Repr

/-- A value of a script. The entries of a map ascend by key. -/
inductive Value where
  | unit
  | bool (value : Bool)
  | int (value : Int)
  | float (value : Double)
  | char (value : Char)
  | text (value : String)
  | list (items : List Value)
  | map (entries : List (String × Value))
  | range (first last : Int) (inclusive : Bool)
  /-- So many integers at equal distances. -/
  | steps (first step : Int) (count : Nat)
  /-- A function by name, the arguments it already has, and the module it belongs to. -/
  | function (name : String) (bound : List Value) (home : Option String)
  /-- A variable that functions without a name share with their surroundings. -/
  | cell (id : Nat)
  | host (object : HostObject)

instance : Inhabited Value := ⟨.unit⟩

namespace HostObject

/-- The name of the object's type for scripts. -/
def typeName : HostObject → String
  | .data => "ScriptData"
  | .server _ => "Server"
  | .player _ => "Player"
  | .offlinePlayer _ => "OfflinePlayer"
  | .substitution => "PlaceholderAPI"
  | .expansion _ => "Expansion"
  | .placeholder _ _ => "Placeholder"

/-- The full name of the object's type, for those outside of scripts. -/
def fullTypeName : HostObject → String
  | .data => "scriptex_core::host::ScriptData"
  | .server _ => "scriptex_core::host::ServerHandle"
  | .player _ => "scriptex_core::host::PlayerHandle"
  | .offlinePlayer _ => "scriptex_core::host::OfflinePlayerHandle"
  | .substitution => "scriptex_core::host::SubstitutionHandle"
  | .expansion _ => "scriptex_core::host::ExpansionInfo"
  | .placeholder _ _ => "scriptex_core::host::PlaceholderHandle"

end HostObject

namespace Value

mutual

/-- Whether two values are the same in all their parts. -/
def same : Value → Value → Bool
  | .unit, .unit => true
  | .bool a, .bool b => a = b
  | .int a, .int b => a = b
  | .float a, .float b => a = b
  | .char a, .char b => a = b
  | .text a, .text b => a = b
  | .list as, .list bs => allSame as bs
  | .map as, .map bs => entriesSame as bs
  | .range a b c, .range a' b' c' => a = a' && b = b' && c = c'
  | .steps a b n, .steps a' b' n' => a = a' && b = b' && n = n'
  | .function a as m, .function b bs m' => a = b && allSame as bs && m = m'
  | .cell i, .cell j => i = j
  | .host a, .host b => a = b
  | _, _ => false

def allSame : List Value → List Value → Bool
  | [], [] => true
  | a :: as, b :: bs => a.same b && allSame as bs
  | _, _ => false

def entriesSame : List (String × Value) → List (String × Value) → Bool
  | [], [] => true
  | (x, a) :: as, (y, b) :: bs => x = y && a.same b && entriesSame as bs
  | _, _ => false

end

theorem eq_of_same :
    (∀ a b : Value, a.same b = true → a = b) ∧ (∀ as bs, entriesSame as bs = true → as = bs) ∧
      ∀ as bs, allSame as bs = true → as = bs := by
  apply same.mutual_induct
  case case14 =>
    -- two values of different kinds
    intro a b _ _ _ _ _ _ _ _ _ _ _ _ _ h
    rw [same] at h
    · cases h
    all_goals assumption
  case case1 | case15 | case18 => exact fun _ => rfl
  case case17 | case20 => simp_all [allSame, entriesSame]
  all_goals
    intros
    simp only [same, allSame, entriesSame, Bool.and_eq_true, decide_eq_true_eq] at *
    grind

mutual

theorem same_self : ∀ a : Value, a.same a = true
  | .list as => by rw [same, allSame_self as]
  | .map as => by rw [same, entriesSame_self as]
  | .function _ as _ => by simp [same, allSame_self as]
  | .unit => rfl
  | .bool _ | .int _ | .float _ | .char _ | .text _ | .range _ _ _ | .steps _ _ _ | .cell _ | .host _ => by
    simp [same]

theorem allSame_self : ∀ as : List Value, allSame as as = true
  | [] => rfl
  | a :: as => by rw [allSame, same_self a, allSame_self as, Bool.and_self]

theorem entriesSame_self : ∀ as : List (String × Value), entriesSame as as = true
  | [] => rfl
  | (_, a) :: as => by simp [entriesSame, same_self a, entriesSame_self as]

end

theorem same_iff {a b : Value} : a.same b = true ↔ a = b := by
  constructor
  · exact eq_of_same.1 a b
  · rintro rfl
    exact same_self a

/-- The name of the value's type for scripts. -/
def typeName : Value → String
  | .unit => "()"
  | .bool _ => "bool"
  | .int _ => "i64"
  | .float _ => "f64"
  | .char _ => "char"
  | .text _ => "string"
  | .list _ => "array"
  | .map _ => "map"
  | .range _ _ inclusive => if inclusive then "range=" else "range"
  | .steps _ _ _ => "range"
  | .function _ _ _ => "Fn"
  | .cell _ => "()"
  | .host object => object.typeName

/-- The full name of the value's type, for those outside of scripts. -/
def fullTypeName : Value → String
  | .range _ _ inclusive => if inclusive then "RangeInclusive<i64>" else "Range<i64>"
  | .host object => object.fullTypeName
  | v => v.typeName

/-- The value's type as it stands among the arguments of a call. -/
def argumentTypeName : Value → String
  | .text _ => "&str | ImmutableString | String"
  | v => v.typeName

/-- The largest and the smallest number whose text has no exponent: ten to the power of plus and minus
thirteen, as near as single precision comes to them. -/
def greatestPlain : Double := ⟨0x42a2309ce0000000⟩

def leastPlain : Double := ⟨0x3d3c25c260000000⟩

/-- Doubles are written out up to thirteen digits before or behind the point. -/
def floatText (x : Double) : List Char :=
  let plain := !(Double.numLt greatestPlain x.abs) && !(Double.numLt x.abs leastPlain)
  Shortest.Layout.text ⟨fun _ => plain, true, false, "NaN", "inf"⟩ x

/-- Inside of other values doubles are written out up to sixteen digits. -/
def innerFloatText (x : Double) : List Char :=
  Shortest.Layout.text ⟨fun power => -5 < power && power < 16, true, true, "NaN", "inf"⟩ x

/-- The text of an object of the host. Scripts see players by name or id and all else by type; to
those outside an object is its full type. -/
def hostText (inScript : Bool) (object : HostObject) : String :=
  if !inScript then object.fullTypeName
  else match object with
    | .player p => p.name
    | .offlinePlayer p => p.id.text
    | object => object.typeName

/-- Pieces with commas between them. -/
def commaSeparated : List (List Char) → List Char
  | [] => []
  | [piece] => piece
  | piece :: rest => piece ++ ',' :: ' ' :: commaSeparated rest

def rangeText (first last : Int) (inclusive : Bool) : List Char :=
  (toString first).toList ++ '.' :: '.' :: (if inclusive then ['='] else []) ++ (toString last).toList

mutual

/-- The text of a value inside another. -/
def innerText (inScript : Bool) : Value → List Char
  | .unit => ['(', ')']
  | .bool b => (toString b).toList
  | .int i => (toString i).toList
  | .float x => innerFloatText x
  | .char c => (Text.quotedChar c).toList
  | .text s => (Text.quoted s).toList
  | .list items => '[' :: commaSeparated (innerTexts inScript items) ++ [']']
  | .map entries => '#' :: '\x7b' :: commaSeparated (entryTexts inScript entries) ++ ['\x7d']
  | .range first last inclusive => rangeText first last inclusive
  | .steps _ _ _ => ['r', 'a', 'n', 'g', 'e']
  | .function name bound _ =>
    'F' :: 'n' :: '(' :: commaSeparated (name.toList :: innerTexts inScript bound) ++ [')']
  | .cell _ => []
  | .host object => (if inScript then object.typeName else object.fullTypeName).toList

def innerTexts (inScript : Bool) : List Value → List (List Char)
  | [] => []
  | item :: items => innerText inScript item :: innerTexts inScript items

def entryTexts (inScript : Bool) : List (String × Value) → List (List Char)
  | [] => []
  | (key, value) :: entries =>
    ((Text.quoted key).toList ++ ':' :: ' ' :: innerText inScript value) ::
      entryTexts inScript entries

end

/-- The text of a value. -/
def shownTo (inScript : Bool) : Value → String
  | .unit => ""
  | .float x => String.ofList (floatText x)
  | .char c => String.singleton c
  | .text s => s
  | .function name _ _ => "Fn(" ++ name ++ ")"
  | .host object => hostText inScript object
  | v => String.ofList (innerText inScript v)

/-- The text of a value for scripts. -/
def shown (v : Value) : String := v.shownTo true

def shownInside (v : Value) : String := String.ofList (v.innerText true)

/-- The text of a value as the result of a script. -/
def resultText (v : Value) : String := v.shownTo false

mutual

/-- A stored value as a value of a script. -/
def ofDatum : Datum → Value
  | .null => .unit
  | .bool b => .bool b
  | .int i => if i < 2 ^ 63 then .int i else .float (Double.ofInt i)
  | .float x => .float x
  | .text s => .text s
  | .list items => .list (ofData items)
  | .map entries => .map (ofEntries entries)

def ofData : List Datum → List Value
  | [] => []
  | item :: items => ofDatum item :: ofData items

def ofEntries : List (String × Datum) → List (String × Value)
  | [] => []
  | (key, value) :: entries => (key, ofDatum value) :: ofEntries entries

end

mutual

/-- The stored form of a value, or the full type name of what cannot be stored. A number that is not
finite is stored as null. -/
def toDatum : Value → Except String Datum
  | .unit => .ok .null
  | .bool b => .ok (.bool b)
  | .int i => .ok (.int i)
  | .float x => .ok (if x.isFinite then .float x else .null)
  | .char c => .ok (.text (String.singleton c))
  | .text s => .ok (.text s)
  | .list items => Except.map .list (toData items)
  | .map entries => Except.map .map (toEntries entries)
  | .range first last inclusive => .error (Value.range first last inclusive).fullTypeName
  | .steps _ _ _ => .error "range"
  | .function _ _ _ => .error "Fn"
  | .cell _ => .error "()"
  | .host object => .error object.fullTypeName

def toData : List Value → Except String (List Datum)
  | [] => .ok []
  | item :: items =>
    match toDatum item with
    | .error e => .error e
    | .ok first => Except.map (first :: ·) (toData items)

def toEntries : List (String × Value) → Except String (List (String × Datum))
  | [] => .ok []
  | (key, value) :: entries =>
    match toDatum value with
    | .error e => .error e
    | .ok first => Except.map ((key, first) :: ·) (toEntries entries)

end

end Value

end PlaceholderScripts.Script
