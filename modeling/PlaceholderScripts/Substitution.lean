import PlaceholderScripts.Dict
import PlaceholderScripts.Identity

/-!
# Substitution of tokens in text

A token is a key between an opening and a closing character, neither of which occurs in the key:
`%key%` in templates, `{key}` in arguments and results. A text is read in one pass from left to
right; what a key resolves to is inserted literally and not read again.

The table service resolves keys from a fixed table. Three keys stand for the requester and never
take their value from the table.
-/

namespace PlaceholderScripts

/-- The two written forms of a token. -/
inductive TokenForm where
  | percent
  | bracket
  deriving DecidableEq, Repr

namespace TokenForm

def opening : TokenForm → Char
  | .percent => '%'
  | .bracket => '{'

def closing : TokenForm → Char
  | .percent => '%'
  | .bracket => '}'

def isKeyChar (form : TokenForm) (c : Char) : Bool := c ≠ form.opening && c ≠ form.closing

/-- The key of the token with which the text begins, if it begins with one. -/
def keyAt? (form : TokenForm) : List Char → Option (List Char)
  | [] => none
  | c :: rest =>
    let key := rest.takeWhile form.isKeyChar
    if c = form.opening && !key.isEmpty && rest[key.length]? = some form.closing then some key
    else none

def token (form : TokenForm) (key : List Char) : List Char :=
  form.opening :: key ++ [form.closing]

@[simp] theorem isKeyChar_closing (form : TokenForm) : form.isKeyChar form.closing = false := by
  simp [isKeyChar]

/-- A character stands right behind the longest run of others exactly if it follows that run. -/
theorem getElem?_takeWhile_length {p : Char → Bool} {rest : List Char} {c : Char} :
    rest[(rest.takeWhile p).length]? = some c ↔ ∃ after, rest = rest.takeWhile p ++ c :: after := by
  have hsplit : rest = rest.takeWhile p ++ rest.dropWhile p := List.takeWhile_append_dropWhile.symm
  have hget : rest[(rest.takeWhile p).length]? = (rest.dropWhile p)[0]? := by
    conv => lhs; arg 1; rw [hsplit]
    rw [List.getElem?_append_right (Nat.le_refl _), Nat.sub_self]
  rw [hget]
  constructor
  · intro h
    cases hd : rest.dropWhile p with
    | nil => simp [hd] at h
    | cons d after =>
      rw [hd, List.getElem?_cons_zero] at h
      exact ⟨after, by rw [← Option.some.inj h, ← hd]; exact hsplit⟩
  · rintro ⟨after, h⟩
    have hd : rest.dropWhile p = c :: after := List.append_cancel_left (hsplit.symm.trans h)
    rw [hd, List.getElem?_cons_zero]

/-- A text begins with the token of a key exactly if the key is not empty and has only characters
that a key may hold. -/
theorem keyAt?_eq_some_iff {form : TokenForm} {cs key : List Char} :
    form.keyAt? cs = some key ↔
      ∃ after, cs = form.token key ++ after ∧ key ≠ [] ∧ ∀ c ∈ key, form.isKeyChar c = true := by
  cases cs with
  | nil => simp [keyAt?, token]
  | cons c rest =>
    simp only [keyAt?]
    constructor
    · intro h
      split at h
      · next hc =>
        simp only [Bool.and_eq_true, decide_eq_true_eq, Bool.not_eq_true',
          List.isEmpty_eq_false_iff, getElem?_takeWhile_length] at hc
        obtain ⟨⟨hopen, hne⟩, after, hrest⟩ := hc
        obtain rfl := Option.some.inj h
        refine ⟨after, ?_, hne, fun d hd => ?_⟩
        · simpa [token, hopen] using hrest
        · exact List.all_eq_true.mp List.all_takeWhile d hd
      · cases h
    · rintro ⟨after, h, hne, hkey⟩
      obtain ⟨rfl, rfl⟩ : c = form.opening ∧ rest = key ++ form.closing :: after := by
        simpa [token] using h
      have htake : (key ++ form.closing :: after).takeWhile form.isKeyChar = key := by
        rw [List.takeWhile_append_of_pos hkey, List.takeWhile_cons_of_neg (by simp), List.append_nil]
      have hempty : key.isEmpty = false := by simpa using hne
      simp [htake, hempty]

/-- What replaces a token: the value of its key, or the token itself. -/
def replacement (form : TokenForm) (resolve : String → Option String) (key : List Char) :
    List Char :=
  match resolve (String.ofList key) with
  | some value => value.toList
  | none => form.token key

/-- Fills in the text behind its first `skip` characters, which belong to a token already read. -/
def fillFrom (form : TokenForm) (resolve : String → Option String) :
    Nat → List Char → List Char
  | _, [] => []
  | skip + 1, _ :: rest => form.fillFrom resolve skip rest
  | 0, c :: rest =>
    match form.keyAt? (c :: rest) with
    | some key => form.replacement resolve key ++ form.fillFrom resolve (key.length + 1) rest
    | none => c :: form.fillFrom resolve 0 rest

theorem fillFrom_drop (form : TokenForm) (resolve : String → Option String) (skip : Nat)
    (cs : List Char) : form.fillFrom resolve skip cs = form.fillFrom resolve 0 (cs.drop skip) := by
  induction skip generalizing cs with
  | zero => rfl
  | succ skip ih =>
    cases cs with
    | nil => rfl
    | cons c rest =>
      rw [fillFrom, List.drop_succ_cons]
      exact ih rest

theorem fillFrom_token {form : TokenForm} (resolve : String → Option String) {key : List Char}
    (hne : key ≠ []) (hkey : ∀ c ∈ key, form.isKeyChar c = true) (after : List Char) :
    form.fillFrom resolve 0 (form.token key ++ after) =
      form.replacement resolve key ++ form.fillFrom resolve 0 after := by
  have hread := keyAt?_eq_some_iff.mpr ⟨after, rfl, hne, hkey⟩
  have hdrop : (key ++ [form.closing] ++ after).drop (key.length + 1) = after :=
    List.drop_left' (by simp)
  rw [token, List.cons_append, List.cons_append] at hread ⊢
  simp only [fillFrom, hread]
  rw [fillFrom_drop, hdrop]

theorem fillFrom_cons {form : TokenForm} (resolve : String → Option String) {c : Char}
    {rest : List Char} (h : form.keyAt? (c :: rest) = none) :
    form.fillFrom resolve 0 (c :: rest) = c :: form.fillFrom resolve 0 rest := by
  simp only [fillFrom, h]

def fill (form : TokenForm) (resolve : String → Option String) (text : String) : String :=
  String.ofList (form.fillFrom resolve 0 text.toList)

end TokenForm

structure SubstitutionError where
  reason : String
  deriving DecidableEq, Repr

def SubstitutionError.message (e : SubstitutionError) : String :=
  "Placeholder substitution failed: " ++ e.reason

/-- Whatever substitutes tokens on behalf of a requester. It is handed a single `%token%` of a
template, or free text that may hold `{token}`s. -/
abbrev SubstitutionService := TokenForm → Identity → String → Except SubstitutionError String

abbrev SubstitutionTable := Dict String

namespace SubstitutionTable

/-- The value of a key for a requester. -/
def resolve (table : SubstitutionTable) (identity : Identity) (key : String) : Option String :=
  if key = "player_name" then identity.name?
  else if key = "player_uuid" then identity.uniqueId?.map PlayerId.text
  else if key = "player_online" then some (if identity.onlinePlayer?.isSome then "yes" else "no")
  else Dict.get? table key

/-- Replaces every token whose key resolves. -/
def substitute (table : SubstitutionTable) (form : TokenForm) (identity : Identity)
    (text : String) : String :=
  form.fill (table.resolve identity) text

def service (table : SubstitutionTable) : SubstitutionService :=
  fun form identity text => .ok (table.substitute form identity text)

end SubstitutionTable

end PlaceholderScripts
