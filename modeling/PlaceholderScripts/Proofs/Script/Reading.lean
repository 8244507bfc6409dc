import PlaceholderScripts.Script.Parser

/-!
# Reading long scripts

A script is read from its characters. Whether a tree that was read is the one that is written out can be
computed.
-/

namespace PlaceholderScripts.Script

/-- Reads a script from its characters. -/
def parseChars (cs : List Char) : Except ParseError ParsedScript :=
  let s := Lexing.steps { rest := cs } (cs.length + 1)
  let s := if s.braces.isEmpty then s else s.push (.fault "Open string is not terminated") s.position
  let fuel := 20 * s.tokens.reverse.length + 100
  match (Parser.statements 0 false fuel).run { tokens := s.tokens.reverse, ending := s.position } with
  | .ok (body, s) => .ok ⟨s.functions, Expr.dropIdle body⟩
  | .error e => .error e

theorem parse_ofList (cs : List Char) : Script.parse (String.ofList cs) = parseChars cs := by
  rw [Script.parse, tokens, String.toList_ofList]
  rfl

mutual

/-- Whether two trees are the same. Trees with maps, choices, functions without a name, errors that are caught, and
the like are not compared. -/
def Expr.same : Expr → Expr → Bool
  | .literal v p, .literal w q => v = w && p = q
  | .variable x p, .variable y q => x = y && p = q
  | .call x as p, .call y bs q => x = y && Expr.allSame as bs && p = q
  | .and a b p, .and c d q => a.same c && b.same d && p = q
  | .chain a ls p, .chain b ms q => a.same b && Link.allSame ls ms && p = q
  | .declare x k e a p, .declare y l f b q => x = y && k = l && e = f && a.same b && p = q
  | .assign a o v p, .assign b o' w q => a.same b && o = o' && v.same w && p = q
  | .ifElse a yes no p, .ifElse b yes' no' q =>
    a.same b && Expr.allSame yes yes' && Expr.allSame no no' && p = q
  | .whileLoop d n a as p, .whileLoop d' n' b bs q =>
    d = d' && n = n' && a.same b && Expr.allSame as bs && p = q
  | .forLoop x c a as p, .forLoop y d b bs q => x = y && c = d && a.same b && Expr.allSame as bs && p = q
  | .returnValue a p, .returnValue b q => a.same b && p = q
  | _, _ => false

def Expr.allSame : List Expr → List Expr → Bool
  | [], [] => true
  | a :: as, b :: bs => a.same b && Expr.allSame as bs
  | _, _ => false

def Link.same : Link → Link → Bool
  | .method x as s p, .method y bs t q => x = y && Expr.allSame as bs && s = t && p = q
  | _, _ => false

def Link.allSame : List Link → List Link → Bool
  | [], [] => true
  | l :: ls, m :: ms => l.same m && Link.allSame ls ms
  | _, _ => false

end

theorem Expr.eq_of_same :
    (∀ a b : Expr, a.same b = true → a = b) ∧ (∀ ls ms, Link.allSame ls ms = true → ls = ms) ∧
      (∀ l m : Link, l.same m = true → l = m) ∧ ∀ as bs, Expr.allSame as bs = true → as = bs := by
  apply Expr.same.mutual_induct
  case case12 =>
    -- two trees that are of different kinds, or of a kind that is not compared
    intro a b _ _ _ _ _ _ _ _ _ _ _ h
    rw [Expr.same] at h
    · cases h
    all_goals assumption
  case case17 =>
    intro l m _ h
    rw [Link.same] at h
    · cases h
    all_goals assumption
  case case13 | case18 => exact fun _ => rfl
  case case15 | case20 => simp_all [Expr.allSame, Link.allSame]
  all_goals
    intros
    simp only [Expr.same, Expr.allSame, Link.same, Link.allSame, Bool.and_eq_true, decide_eq_true_eq] at *
    grind

/-- Whether two functions are the same, which is the case only if their trees are compared. -/
def Function.same (g g' : Function) : Bool :=
  g.name = g'.name && g.parameters = g'.parameters && Expr.allSame g.body g'.body &&
    g.isPrivate = g'.isPrivate

theorem Function.eq_of_same {g g' : Function} (h : g.same g' = true) : g = g' := by
  obtain ⟨name, parameters, body, isPrivate⟩ := g
  obtain ⟨name', parameters', body', isPrivate'⟩ := g'
  simp only [Function.same, Bool.and_eq_true, decide_eq_true_eq] at h
  obtain ⟨⟨⟨rfl, rfl⟩, hbody⟩, rfl⟩ := h
  obtain rfl := Expr.eq_of_same.2.2.2 _ _ hbody
  rfl

end PlaceholderScripts.Script
