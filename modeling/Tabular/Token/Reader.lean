import Tabular.Error

namespace Tabular

/-- What a reader leaves is an end of the tokens it was given. -/
structure Reader (α : Type) where
  run : List Token → Except SyntaxFault (α × List Token)
  leaves : ∀ {tokens a rest}, run tokens = .ok (a, rest) → rest <:+ tokens

namespace Reader

instance : Monad Reader where
  pure a := ⟨fun tokens => .ok (a, tokens), fun h => by cases h; exact List.suffix_rfl⟩
  bind r f :=
    { run := fun tokens =>
        match r.run tokens with
        | .error fault => .error fault
        | .ok (a, rest) => (f a).run rest
      leaves := fun h => by
        split at h
        · cases h
        · next hr => exact ((f _).leaves h).trans (r.leaves hr) }

theorem run_pure (a : α) (tokens : List Token) :
    (pure a : Reader α).run tokens = .ok (a, tokens) := rfl

theorem run_bind (r : Reader α) (f : α → Reader β) (tokens : List Token) :
    (r >>= f).run tokens = match r.run tokens with
      | .error fault => .error fault
      | .ok (a, rest) => (f a).run rest := rfl

def fail (fault : SyntaxFault) : Reader α :=
  ⟨fun _ => .error fault, fun h => by cases h⟩

/-- The next token, which stays; past the last one there is only the end mark. -/
def peek : Reader Token :=
  ⟨fun tokens => .ok (tokens.headD .stop, tokens), fun h => by cases h; exact List.suffix_rfl⟩

def skip : Reader Unit :=
  ⟨fun tokens => .ok ((), tokens.tail), fun h => by cases h; exact List.tail_suffix _⟩

def failExpecting (expectation : Expectation) : Reader α := do
  fail (.expected expectation (← peek))

/-- Takes the token if it comes next. -/
def accept (token : Token) : Reader Bool := do
  if (← peek) = token then
    skip
    return true
  else
    return false

def expect (token : Token) : Reader Unit := do
  unless ← accept token do
    failExpecting (.token token)

/-- Runs an item, and another one as long as a token follows that `more` accepts; what it makes of
the token goes to the item behind it. -/
def runChain (item : β → Reader α) (more : Token → Option β) (b : β) (tokens : List Token) :
    Except SyntaxFault (List α × List Token) :=
  match _h : (item b).run tokens with
  | .error fault => .error fault
  | .ok (a, []) => .ok ([a], [])
  | .ok (a, token :: rest) =>
    match more token with
    | none => .ok ([a], token :: rest)
    | some b' => (runChain item more b' rest).map fun (others, rest) => (a :: others, rest)
termination_by tokens.length
decreasing_by
  have := ((item b).leaves _h).length_le
  simp only [List.length_cons] at this
  omega

theorem runChain_leaves {item : β → Reader α} {more : Token → Option β} {b : β}
    {tokens rest : List Token} {items : List α}
    (h : runChain item more b tokens = .ok (items, rest)) : rest <:+ tokens := by
  fun_induction runChain item more b tokens generalizing items rest with
  | case1 => cases h
  | case2 _ _ _ hr =>
    cases h
    exact (item _).leaves hr
  | case3 _ _ _ _ _ hr =>
    cases h
    exact (item _).leaves hr
  | case4 b tokens a token left hr b' hm ih =>
    cases hn : runChain item more b' left with
    | error fault => simp [hn, Except.map] at h
    | ok found =>
      obtain ⟨others, last⟩ := found
      simp only [hn, Except.map, Except.ok.injEq, Prod.mk.injEq] at h
      obtain ⟨-, rfl⟩ := h
      exact (ih hn).trans ((List.suffix_cons token left).trans ((item b).leaves hr))

def chain (item : β → Reader α) (more : Token → Option β) (b : β) : Reader (List α) :=
  ⟨runChain item more b, runChain_leaves⟩

/-- One or more items with commas between them. -/
def separated (item : Reader α) : Reader (List α) :=
  chain (fun _ : Unit => item) (fun token => if token = .symbol .comma then some () else none) ()

end Reader

end Tabular
