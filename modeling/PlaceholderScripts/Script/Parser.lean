import PlaceholderScripts.Script.Syntax

/-!
# Reading scripts

From tokens to syntax. Binary operators bind by rank, those of one rank to the left, powers to the
right; signs and negations bind more tightly than any of them. A function without a name keeps the
names of the variables that it takes from its surroundings.

Every expression inside another adds to a depth that is limited, so that no script can nest further
than its evaluation could follow.
-/

namespace PlaceholderScripts.Script

structure ParseError where
  message : String
  position : Position
  deriving DecidableEq, Repr

def ParseError.text (e : ParseError) : String := e.message ++ " (" ++ e.position.text ++ ")"

structure Parsing where
  tokens : List Token
  /-- The end of the script. -/
  ending : Position
  functions : List Function := []
  /-- The number of functions without a name so far. -/
  closures : Nat := 0
  /-- The variables of the function that is being read, and whether they are constants. -/
  locals : List (String × Bool) := []
  /-- Names that are used but declared outside of it, the last one first. -/
  outside : List String := []
  /-- How deep expressions may nest. -/
  depthLimit : Nat := 64
  /-- Whether this is the inside of a named function. -/
  inFunction : Bool := false
  /-- Whether this is the inside of a loop. -/
  inLoop : Bool := false

abbrev Parser := StateT Parsing (Except ParseError)

namespace Parser

def failAt {α : Type} (message : String) (p : Position) : Parser α := throw ⟨message, p⟩

def peekToken : Parser (Option Token) := do return (← get).tokens.head?

/-- The place of the next token. -/
def here : Parser Position := do
  let s ← get
  return (s.tokens.head?.map Token.position).getD s.ending

/-- The next token, of which a fault is an error. -/
def peek : Parser (Option Lexeme) := do
  match ← peekToken with
  | some ⟨.fault message, p⟩ => failAt message p
  | some t => return some t.lexeme
  | none => return none

def advance : Parser Unit := modify fun s => { s with tokens := s.tokens.drop 1 }

/-- Takes a symbol, if it is the next token. -/
def takeSymbol (name : String) : Parser Bool := do
  if (← peek) = some (.symbol name) then
    advance
    return true
  else return false

/-- Takes a word, if it is the next token. -/
def takeWord (name : String) : Parser Bool := do
  if (← peek) = some (.word name) then
    advance
    return true
  else return false

def expectSymbol (name : String) (purpose : String) : Parser Unit := do
  if !(← takeSymbol name) then failAt ("Expecting '" ++ name ++ "' " ++ purpose) (← here)

/-- Refuses words that are reserved. -/
def checkName (name : String) (p : Position) : Parser Unit := do
  if name = "eval" then failAt "reserved keyword 'eval' is disabled" p
  else if reservedWords.contains name then failAt ("'" ++ name ++ "' is a reserved keyword") p

/-- A name where one is declared. -/
def expectName (message : String) : Parser String := do
  let p ← here
  match ← peek with
  | some (.word name) =>
    if keywords.contains name then failAt message p
    else
      checkName name p
      advance
      return name
  | _ => failAt message p

def declareLocal (name : String) (constant : Bool := false) : Parser Unit :=
  modify fun s => { s with locals := (name, constant) :: s.locals }

def parameterLocals (names : List String) : List (String × Bool) :=
  names.reverse.map fun name => (name, false)

/-- Remembers that a variable is used. -/
def useVariable (name : String) : Parser Unit :=
  modify fun s =>
    if (s.locals.lookup name).isSome || s.outside.contains name then s
    else { s with outside := name :: s.outside }

/-- Refuses to change a constant. -/
def checkTarget (target : Expr) : Parser Unit := do
  match target with
  | .literal _ p => failAt "Cannot assign to a constant value" p
  | .variable name p =>
    if (← get).locals.lookup name = some true then failAt ("Cannot assign to constant " ++ name) p
  | _ => return

/-- Refuses what makes sense only in a loop. -/
def checkLoop (p : Position) : Parser Unit := do
  if !(← get).inLoop then failAt "Break statement should only be used inside a loop" p

/-- Reads the inside of a loop, or something outside of every loop. -/
def withLoop {α : Type} (inLoop : Bool) (p : Parser α) : Parser α := do
  let outer := (← get).inLoop
  modify fun s => { s with inLoop }
  let a ← p
  modify fun s => { s with inLoop := outer }
  return a

/-- Reads with the variables declared inside forgotten afterwards. -/
def withScope {α : Type} (p : Parser α) : Parser α := do
  let locals := (← get).locals
  let a ← p
  modify fun s => { s with locals }
  return a

def tooDeep {α : Type} : Parser α := do failAt "Expression exceeds maximum complexity" (← here)

def checkDepth (depth : Nat) : Parser Unit := do
  if depth > (← get).depthLimit then tooDeep

/-- The rank of a binary operator. -/
def rank? : Lexeme → Option Nat
  | .symbol s =>
    if ["||", "|", "^"].contains s then some 30
    else if ["&&", "&"].contains s then some 60
    else if ["==", "!="].contains s then some 90
    else if ["<", "<=", ">", ">="].contains s then some 130
    else if s = "??" then some 135
    else if ["..", "..="].contains s then some 140
    else if ["+", "-"].contains s then some 150
    else if ["*", "/", "%"].contains s then some 180
    else if s = "**" then some 190
    else if ["<<", ">>"].contains s then some 210
    else none
  | .word s => if s = "in" then some 110 else none
  | _ => none

/-- The next binary operator, its rank, and the number of its tokens. -/
def peekOperator : Parser (Option (String × Nat × Nat)) := do
  match ← peek with
  | some (.symbol "!") =>
    match (← get).tokens with
    | _ :: ⟨.word "in", _⟩ :: _ => return some ("!in", 110, 2)
    | _ => return none
  | some lexeme =>
    match lexeme, rank? lexeme with
    | .symbol s, some n => return some (s, n, 1)
    | .word s, some n => return some (s, n, 1)
    | _, _ => return none
  | none => return none

/-- Two operands and the operator between them. -/
def combine (operator : String) (left right : Expr) (p : Position) : Expr :=
  if operator = "&&" then .and left right p
  else if operator = "||" then .or left right p
  else if operator = "??" then .orElse left right p
  else if operator = "in" then .call "contains" [right, left] p
  else if operator = "!in" then .call "!" [.call "contains" [right, left] p] p
  else .call operator [left, right] p

/-- The symbols of assignments and the operations that they carry out. -/
def assignments : List (String × Option OperatorName) :=
  [("=", none), ("+=", some "+"), ("-=", some "-"), ("*=", some "*"), ("/=", some "/"),
    ("%=", some "%"), ("**=", some "**"), ("<<=", some "<<"), (">>=", some ">>"), ("&=", some "&"),
    ("|=", some "|"), ("^=", some "^")]

/-- A link behind an expression; the links of one root are kept together, at the place of the first. -/
def link (e : Expr) (l : Link) (p : Position) : Expr :=
  match e with
  | .chain root links p => .chain root (links ++ [l]) p
  | e => .chain e [l] p

def isMethod : Link → Bool
  | .method _ _ _ _ => true
  | _ => false

/-- Whether an expression has a place that an assignment could change: a variable, or a part of one that
no method gives. A value that is written out has such a place too, but it is constant. -/
def isTarget : Expr → Bool
  | .variable _ _ | .self _ | .literal _ _ => true
  | .chain (.variable _ _) links _ | .chain (.self _) links _ => !links.any isMethod
  | _ => false

/-- An assignment. One that adds to the old value of its variable is the same as an assignment through
that operation. -/
def assignment (target : Expr) (operation : Option OperatorName) (value : Expr) (p : Position) : Expr :=
  match target, operation, value with
  | .variable name _, none, .call operator [.variable other _, right] q =>
    if other = name && (assignments.any fun a => a.2 = some operator) then
      .assign target (some operator) right q
    else .assign target operation value p
  | _, _, _ => .assign target operation value p

/-- The opposite of a number that is written out. -/
def negate (e : Expr) (p : Position) : Expr :=
  match e with
  | .literal (.int i) _ =>
    if i = -(2 ^ 63) then .literal (.float (Double.ofInt (2 ^ 63))) p else .literal (.int (-i)) p
  | .literal (.float x) _ => .literal (.float x.neg) p
  | e => .call "-" [e] p

/-- The variable of a loop, and perhaps one that counts the rounds. -/
def loopNames : Parser (String × Option String) := do
  if ← takeSymbol "(" then
    let name ← expectName "Expecting name of a variable"
    expectSymbol "," "after the iteration variable name"
    let counter ← expectName "Expecting name of a variable"
    expectSymbol ")" "to close the iteration variable"
    return (name, some counter)
  else
    let name ← expectName "Expecting name of a variable"
    return (name, none)

mutual

/-- Expressions up to the end of the script or of a block, with semicolons between them. -/
def statements (depth : Nat) (inBlock : Bool) : Nat → Parser (List Expr)
  | 0 => return []
  | fuel + 1 => do
    match ← peek with
    | none => return []
    | some (.symbol ";") => do
      advance
      statements depth inBlock fuel
    | some lexeme =>
      if inBlock && lexeme = .symbol "\x7d" then return []
      let first ← statement depth (!inBlock) fuel
      match first with
      | none => statements depth inBlock fuel
      | some e =>
        let rest ← do
          match ← peek with
          | none => pure []
          | some next =>
            if next = .symbol ";" then
              advance
              statements depth inBlock fuel
            else if inBlock && next = .symbol "\x7d" then pure []
            else if e.endsItself then statements depth inBlock fuel
            else failAt "Expecting ';' to terminate this statement" (← here)
        return e :: rest
termination_by structural fuel => fuel

/-- One expression of a block; a function that is defined gives none. -/
def statement (depth : Nat) (atTop : Bool) : Nat → Parser (Option Expr)
  | 0 => tooDeep
  | fuel + 1 => do
    let p ← here
    match ← peek with
    | some (.word "fn") => do
      advance
      function p atTop false fuel
      return none
    | some (.word "private") => do
      advance
      if ← takeWord "fn" then
        function p atTop true fuel
        return none
      else failAt "Expecting 'fn' following 'private'" (← here)
    | some (.word "let") => do
      advance
      some <$> declaration depth false false p fuel
    | some (.word "const") => do
      advance
      some <$> declaration depth true false p fuel
    | some (.word "break") => do
      checkLoop p
      advance
      return some (.breakLoop (← optionalExpr depth fuel) p)
    | some (.word "continue") => do
      checkLoop p
      advance
      return some (.continueLoop p)
    | some (.word "return") => do
      advance
      return some (.returnValue (← optionalExpr depth fuel) p)
    | some (.word "throw") => do
      advance
      return some (.throwValue (← optionalExpr depth fuel) p)
    | some (.word "import") => do
      advance
      let path ← expr depth fuel
      if ← takeWord "as" then let _ ← expectName "Expecting name of a variable"
      return some (.importModule path p)
    | some (.word "export") => do
      advance
      if ← takeWord "let" then
        some <$> declaration depth false true p fuel
      else if ← takeWord "const" then
        some <$> declaration depth true true p fuel
      else
        let name ← expectName "Expecting name of a variable"
        let alias_ ← if ← takeWord "as" then expectName "Expecting name of a variable"
          else pure name
        return some (.exportName name alias_ p)
    | _ =>
      let e ← compound depth fuel
      match e with
      | some e => return some e
      | none =>
        let e ← expr depth fuel
        match ← peek with
        | some (.symbol s) =>
          match assignments.lookup s with
          | some operation =>
            let at_ ← here
            if !isTarget e then failAt "Expression cannot be assigned to" e.position
            advance
            let value ← expr depth fuel
            checkTarget e
            return some (assignment e operation value at_)
          | none => return some e
        | _ => return some e
termination_by structural fuel => fuel

/-- The value behind `break`, `return` or `throw`; unit, where there is none. -/
def optionalExpr (depth : Nat) : Nat → Parser Expr
  | 0 => do return .literal .unit (← here)
  | fuel + 1 => do
    match ← peek with
    | none | some (.symbol ";") | some (.symbol "\x7d") => return .literal .unit (← here)
    | _ => expr depth fuel
termination_by structural fuel => fuel

/-- A variable or constant and its value. -/
def declaration (depth : Nat) (constant exported : Bool) (p : Position) : Nat → Parser Expr
  | 0 => tooDeep
  | fuel + 1 => do
    let name ← expectName "Expecting name of a variable"
    let value ← if ← takeSymbol "=" then expr depth fuel else pure (.literal .unit p)
    declareLocal name constant
    return .declare name constant exported value p
termination_by structural fuel => fuel

/-- A function with a name. -/
def function (p : Position) (atTop isPrivate : Bool) : Nat → Parser Unit
  | 0 => tooDeep
  | fuel + 1 => do
    if !atTop then
      failAt ("Function definitions must be at global level and cannot be inside a block or " ++
        "another function") p
    let name ← expectName "Expecting function name in function declaration"
    if !(← takeSymbol "(") then
      failAt ("Expecting parameters for function '" ++ name ++ "'") (← here)
    let names ← parameters ")" fuel
    let outer ← get
    set { outer with
      locals := parameterLocals names
      outside := []
      depthLimit := 32
      inFunction := true
      inLoop := false }
    if (← peek) ≠ some (.symbol "\x7b") then
      failAt ("Expecting body statement block for function '" ++ name ++ "'") (← here)
    let body ← blockBody 1 fuel
    let exists_ := (← get).functions.any fun f =>
      f.name = name && f.parameters.length = names.length
    if exists_ then
      failAt ("Function '" ++ name ++ "' already exists with " ++ toString names.length ++
        " parameters") p
    modify fun s =>
      { s with
        functions := s.functions ++ [⟨name, names, body, isPrivate⟩]
        locals := outer.locals
        outside := outer.outside
        depthLimit := outer.depthLimit
        inFunction := outer.inFunction
        inLoop := outer.inLoop }
termination_by structural fuel => fuel

/-- Names up to a closing symbol, with commas between them. -/
def parameters (closing : String) : Nat → Parser (List String)
  | 0 => return []
  | fuel + 1 => do
    if ← takeSymbol closing then return []
    let p ← here
    let name ← expectName "Expecting name of a parameter"
    if ← takeSymbol closing then return [name]
    if !(← takeSymbol ",") then failAt "Expecting ',' to separate the parameters" (← here)
    let rest ← parameters closing fuel
    if rest.contains name then failAt ("Duplicated parameter '" ++ name ++ "'") p
    return name :: rest
termination_by structural fuel => fuel

/-- A block in braces. -/
def blockBody (depth : Nat) : Nat → Parser (List Expr)
  | 0 => tooDeep
  | fuel + 1 => do
    checkDepth depth
    expectSymbol "\x7b" "to start a statement block"
    let body ← withScope (statements (depth + 1) true fuel)
    expectSymbol "\x7d" "to terminate this block"
    return Expr.dropIdle body
termination_by structural fuel => fuel

/-- An expression with a block of its own, if one begins here. -/
def compound (depth : Nat) : Nat → Parser (Option Expr)
  | 0 => return none
  | fuel + 1 => do
    let p ← here
    match ← peek with
    | some (.symbol "\x7b") => return some (.block (← blockBody depth fuel) p)
    | some (.word "if") => do
      advance
      some <$> condition depth p fuel
    | some (.word "switch") => do
      advance
      let subject ← expr (depth + 1) fuel
      expectSymbol "\x7b" "to start a switch block"
      let list ← cases depth fuel
      return some (.choose subject list p)
    | some (.word "loop") => do
      advance
      let body ← withLoop true (blockBody (depth + 1) fuel)
      return some (.whileLoop false false (.literal (.bool true) p) (Expr.dropAllIdle body) p)
    | some (.word "while") => do
      advance
      let e ← expr (depth + 1) fuel
      let body ← withLoop true (blockBody (depth + 1) fuel)
      return some (.whileLoop false false e (Expr.dropAllIdle body) p)
    | some (.word "do") => do
      advance
      let body ← withLoop true (blockBody (depth + 1) fuel)
      let negated ← do
        if ← takeWord "while" then pure false
        else if ← takeWord "until" then pure true
        else failAt "Expecting 'while' for the do statement" (← here)
      let e ← expr (depth + 1) fuel
      return some (.whileLoop true negated e (Expr.dropAllIdle body) p)
    | some (.word "for") => do
      advance
      let (name, counter) ← loopNames
      if !(← takeWord "in") then failAt "Expecting 'in' after the iteration variable" (← here)
      let range ← expr (depth + 1) fuel
      let body ← withScope do
        declareLocal name
        if let some counter := counter then declareLocal counter
        withLoop true (blockBody (depth + 1) fuel)
      return some (.forLoop name counter range (Expr.dropAllIdle body) p)
    | some (.word "try") => do
      advance
      let body ← blockBody (depth + 1) fuel
      if !(← takeWord "catch") then failAt "Expecting 'catch' for the 'try' statement" (← here)
      let caught ← do
        if ← takeSymbol "(" then
          let name ← expectName "Expecting name of a variable"
          expectSymbol ")" "to enclose the catch variable"
          pure (some name)
        else pure none
      let handler ← withScope do
        if let some name := caught then declareLocal name
        blockBody (depth + 1) fuel
      return some (.tryCatch (Expr.dropAllIdle body) caught (Expr.dropAllIdle handler) p)
    | _ => return none
termination_by structural fuel => fuel

/-- A condition, what follows where it holds, and what follows where it does not. -/
def condition (depth : Nat) (p : Position) : Nat → Parser Expr
  | 0 => tooDeep
  | fuel + 1 => do
    let e ← expr (depth + 1) fuel
    let yes ← blockBody (depth + 1) fuel
    if ← takeWord "else" then
      let p' ← here
      if ← takeWord "if" then
        let no ← condition (depth + 1) p' fuel
        return .ifElse e yes [no] p
      else
        let no ← blockBody (depth + 1) fuel
        return .ifElse e yes no p
    else return .ifElse e yes [] p
termination_by structural fuel => fuel

/-- The cases of a choice up to the closing brace. -/
def cases (depth : Nat) : Nat → Parser (List Case)
  | 0 => return []
  | fuel + 1 => do
    if ← takeSymbol "\x7d" then return []
    let values ← if ← takeSymbol "_" then pure [] else caseValues depth fuel
    let guard_ ← if ← takeWord "if" then some <$> expr (depth + 1) fuel else pure none
    expectSymbol "=>" "in this switch case"
    let body ← statement (depth + 1) false fuel
    let body := body.getD (.literal .unit (← here))
    let case_ := Case.mk values guard_ body
    if ← takeSymbol "," then return case_ :: (← cases depth fuel)
    else if ← takeSymbol "\x7d" then return [case_]
    else if body.endsItself then return case_ :: (← cases depth fuel)
    else failAt "Expecting ',' to separate the items in this switch block" (← here)
termination_by structural fuel => fuel

/-- The values of a case, with bars between them. -/
def caseValues (depth : Nat) : Nat → Parser (List Expr)
  | 0 => return []
  | fuel + 1 => do
    let left ← unary (depth + 1) fuel
    let value ← do
      match ← peekOperator with
      | some (_, n, _) =>
        -- a bar separates the values, all else belongs to one
        if n > 30 then binary (depth + 1) 30 left fuel else pure left
      | none => pure left
    if ← takeSymbol "|" then return value :: (← caseValues depth fuel)
    else return [value]
termination_by structural fuel => fuel

/-- An expression. -/
def expr (depth : Nat) : Nat → Parser Expr
  | 0 => tooDeep
  | fuel + 1 => do
    checkDepth depth
    let left ← unary (depth + 1) fuel
    binary (depth + 1) 1 left fuel
termination_by structural fuel => fuel

/-- Operators of a rank above `least` behind a left operand. -/
def binary (depth least : Nat) (left : Expr) : Nat → Parser Expr
  | 0 => return left
  | fuel + 1 => do
    match ← peekOperator with
    | none => return left
    | some (operator, n, count) =>
      if n ≤ least then return left
      let p ← here
      for _ in List.range count do advance
      let right ← unary (depth + 1) fuel
      let right ← do
        match ← peekOperator with
        | some (_, m, _) =>
          if m > n then binary depth n right fuel
          else if m = n && operator = "**" then binary depth (n - 1) right fuel
          else pure right
        | none => pure right
      binary depth least (combine operator left right p) fuel
termination_by structural fuel => fuel

/-- An operand with its signs. -/
def unary (depth : Nat) : Nat → Parser Expr
  | 0 => tooDeep
  | fuel + 1 => do
    let p ← here
    match ← peek with
    | some (.symbol "-") => do
      advance
      return negate (← unary (depth + 1) fuel) p
    | some (.symbol "+") => do
      advance
      let e ← unary (depth + 1) fuel
      match e with
      | .literal (.int i) _ => return .literal (.int i) p
      | .literal (.float x) _ => return .literal (.float x) p
      | e => return .call "+" [e] p
    | some (.symbol "!") => do
      advance
      return .call "!" [← unary (depth + 1) fuel] p
    | _ =>
      let e ← primary depth fuel
      postfixLinks depth e fuel
termination_by structural fuel => fuel

/-- What stands behind an operand: properties, methods and indices. -/
def postfixLinks (depth : Nat) (e : Expr) : Nat → Parser Expr
  | 0 => return e
  | fuel + 1 => do
    match ← peek with
    | some (.symbol s) =>
      let at_ ← here
      if s = "." || s = "?." then
        advance
        let p ← here
        match ← peek with
        | some (.word name) =>
          advance
          if ← takeSymbol "(" then
            let args ← arguments (depth + 1) ")" fuel
            postfixLinks depth (link e (.method name args (s = "?.") p) at_) fuel
          else postfixLinks depth (link e (.property name (s = "?.") p) at_) fuel
        | _ => failAt "Expecting name of a property" p
      else if s = "[" || s = "?[" then
        advance
        let key ← expr (depth + 1) fuel
        expectSymbol "]" "for a matching [ in this index expression"
        postfixLinks depth (link e (.index key (s = "?[") at_) at_) fuel
      else return e
    | _ => return e
termination_by structural fuel => fuel

/-- Expressions up to a closing symbol, with commas between them. -/
def arguments (depth : Nat) (closing : String) : Nat → Parser (List Expr)
  | 0 => return []
  | fuel + 1 => do
    if ← takeSymbol closing then return []
    let e ← expr depth fuel
    if ← takeSymbol closing then return [e]
    if !(← takeSymbol ",") then failAt "Expecting ',' to separate the items" (← here)
    return e :: (← arguments depth closing fuel)
termination_by structural fuel => fuel

/-- The entries of a map up to the closing brace. -/
def mapEntries (depth : Nat) : Nat → Parser (List (String × Expr))
  | 0 => return []
  | fuel + 1 => do
    if ← takeSymbol "\x7d" then return []
    let p ← here
    let name ← do
      match ← peek with
      | some (.word name) => pure name
      | some (.text name) => pure name
      | _ => failAt "Expecting name of a property" p
    advance
    expectSymbol ":" ("to follow the property '" ++ name ++ "' in this object map literal")
    let value ← expr depth fuel
    if ← takeSymbol "\x7d" then return [(name, value)]
    if !(← takeSymbol ",") then
      failAt "Expecting ',' to separate the items of this object map literal" (← here)
    let rest ← mapEntries depth fuel
    if rest.any (·.1 = name) then
      failAt ("Duplicated property for object map literal: '" ++ name ++ "'") p
    return (name, value) :: rest
termination_by structural fuel => fuel

/-- The parts of a text with code in it. -/
def templateParts (depth : Nat) : Nat → Parser (List Expr)
  | 0 => return []
  | fuel + 1 => do
    let p ← here
    match ← peek with
    | some (.templateText text) => do
      advance
      return .literal (.text text) p :: (← templateParts depth fuel)
    | some .templateCode => do
      advance
      let body ← withScope (statements (depth + 1) true fuel)
      expectSymbol "\x7d" "to terminate this block"
      return .block (Expr.dropIdle body) p :: (← templateParts depth fuel)
    | some .templateClose => do
      advance
      return []
    | _ => failAt "Open string is not terminated" p
termination_by structural fuel => fuel

/-- The names of a path behind its first one, and the place of the last. -/
def path (name : String) : Nat → Parser (List String × String × Position)
  | 0 => do return ([], name, ← here)
  | fuel + 1 => do
    let p ← here
    match ← peek with
    | some (.word next) => do
      advance
      if ← takeSymbol "::" then
        let (names, last, p) ← path next fuel
        return (name :: names, last, p)
      else return ([name], next, p)
    | _ => failAt "Expecting name of a variable" p
termination_by structural fuel => fuel

/-- A function without a name, behind its first bar. -/
def closureBody (depth : Nat) (names : List String) (p : Position) : Nat → Parser Expr
  | 0 => tooDeep
  | fuel + 1 => do
    let outer ← get
    set { outer with locals := parameterLocals names, outside := [], inLoop := false }
    let body ← do
      match ← statement (depth + 1) false fuel with
      | some e => pure [e]
      | none => pure ([] : List Expr)
    let s ← get
    let captured := s.outside.reverse
    let name := anonymousMark ++ toString s.closures
    set { s with
      functions := s.functions ++ [Function.mk name (captured ++ names) body true]
      closures := s.closures + 1
      locals := outer.locals
      outside := outer.outside
      inLoop := outer.inLoop }
    for v in captured do useVariable v
    return .closure name captured p
termination_by structural fuel => fuel

/-- An operand without what stands before or behind it. -/
def primary (depth : Nat) : Nat → Parser Expr
  | 0 => tooDeep
  | fuel + 1 => do
    checkDepth depth
    let p ← here
    match ← peek with
    | none => failAt "Script is incomplete" p
    | some (.int i) => do
      advance
      return .literal (.int i) p
    | some (.float x) => do
      advance
      return .literal (.float x) p
    | some (.char c) => do
      advance
      return .literal (.char c) p
    | some (.text s) => do
      advance
      return .literal (.text s) p
    | some .templateOpen => do
      advance
      return .template (← templateParts depth fuel) p
    | some (.symbol "(") => do
      advance
      if ← takeSymbol ")" then return .literal .unit p
      let e ← expr (depth + 2) fuel
      expectSymbol ")" "for a matching ( in this expression"
      -- a chain inside parentheses is a value of its own for the links behind them
      match e with
      | .chain _ _ _ => return .block [e] p
      | e => return e
    | some (.symbol "[") => do
      advance
      return .list (← arguments (depth + 1) "]" fuel) p
    | some (.symbol "#\x7b") => do
      advance
      let entries ← mapEntries (depth + 1) fuel
      return .map (entries.map Prod.fst) (entries.map Prod.snd) p
    | some (.symbol "||") => do
      advance
      closureBody depth [] p fuel
    | some (.symbol "|") => do
      advance
      let names ← parameters "|" fuel
      closureBody depth names p fuel
    | some (.symbol s) =>
      if s = "\x7b" then return .block (← blockBody depth fuel) p
      else if reservedSymbols.contains s then
        failAt ("'" ++ s ++ "' is a reserved symbol") p
      else failAt ("Unexpected '" ++ s ++ "'") p
    | some (.word "true") => do
      advance
      return .literal (.bool true) p
    | some (.word "false") => do
      advance
      return .literal (.bool false) p
    | some (.word "this") => do
      advance
      return .self p
    | some (.word name) =>
      if ["if", "switch", "loop", "while", "do", "for"].contains name then
        match ← compound (depth + 1) fuel with
        | some e => return e
        | none => failAt ("Unexpected '" ++ name ++ "'") p
      else if keywords.contains name then failAt ("Unexpected '" ++ name ++ "'") p
      else
        advance
        if ← takeSymbol "::" then
          let (names, last, q) ← path name fuel
          if ← takeSymbol "(" then
            return .pathCall names last (← arguments (depth + 1) ")" fuel) p q
          else return .pathVariable names last p q
        else
          checkName name p
          if ← takeSymbol "(" then return .call name (← arguments (depth + 1) ")" fuel) p
          else
            useVariable name
            return .variable name p
    | some _ => failAt "Open string is not terminated" p
termination_by structural fuel => fuel

end

end Parser

/-- Reads a script. -/
def parse (script : String) : Except ParseError ParsedScript :=
  let (tokens, ending) := tokens script
  let fuel := 20 * tokens.length + 100
  match (Parser.statements 0 false fuel).run { tokens, ending } with
  | .ok (body, s) => .ok ⟨s.functions, Expr.dropIdle body⟩
  | .error e => .error e

end PlaceholderScripts.Script
