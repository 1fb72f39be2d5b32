import Tabular.Proofs.Statement.Clauses
import Tabular.Proofs.Statement.Cursor

namespace Tabular

namespace Walk

variable {α β : Type}

/-- One more round of a list with commas: a comma, and an item behind it. -/
def commaRound (item : Walk α) (as : List α) : Walk (List α ⊕ List α) := do
  if ← eat (.symbol .comma) then
    return .inl (as ++ [← item])
  else
    return .inr as

/-- One or more items with commas between them. -/
def commas (item : Walk α) : Walk (List α) := do
  loop (commaRound item) [← item]

/-- One more round of items that are linked by what `more` accepts: an item, and such a token if it
comes next. -/
def chainRound (item : β → Walk α) (more : Token → Option β) (found : List α × β) :
    Walk (List α × β ⊕ List α) := do
  let as := found.1 ++ [← item found.2]
  match more (← current) with
  | none => return .inr as
  | some b =>
    advance
    return .inl (as, b)

def chain (item : β → Walk α) (more : Token → Option β) (b : β) : Walk (List α) :=
  loop (chainRound item more) ([], b)

end Walk

namespace Reader

/-- What is read in one round of a list with commas. -/
def commaStep (item : Reader α) (as : List α) : Reader (List α ⊕ List α) := do
  if ← accept (.symbol .comma) then
    return .inl (as ++ [← item])
  else
    return .inr as

/-- What is read in one round of linked items. -/
def chainStep (item : β → Reader α) (more : Token → Option β) (found : List α × β) :
    Reader (List α × β ⊕ List α) := do
  let as := found.1 ++ [← item found.2]
  match more (← peek) with
  | none => return .inr as
  | some b =>
    skip
    return .inl (as, b)

/-- What is read of a list with commas when some of its items have been read. -/
def readCommas (item : Reader α) (as : List α) (tokens : List Token) :
    Except SyntaxFault (List α × List Token) :=
  if tokens.headD .stop = .symbol .comma then
    ((separated item).run tokens.tail).map fun rest => (as ++ rest.1, rest.2)
  else .ok (as, tokens)

variable {α β : Type}

theorem readCommas_append (item : Reader α) (as as' : List α) (tokens : List Token) :
    (readCommas item as' tokens).map (fun rest => (as ++ rest.1, rest.2)) =
      readCommas item (as ++ as') tokens := by
  unfold readCommas
  split
  · cases (separated item).run tokens.tail with
    | error fault => rfl
    | ok rest => simp only [Except.map, List.append_assoc]
  · rfl

theorem run_separated (item : Reader α) (tokens : List Token) :
    (separated item).run tokens =
      match item.run tokens with
      | .error fault => .error fault
      | .ok (a, left) => readCommas item [a] left := by
  change runChain _ _ () tokens = _
  rw [runChain]
  cases item.run tokens with
  | error fault => rfl
  | ok found =>
    obtain ⟨a, left⟩ := found
    unfold readCommas
    cases left with
    | nil => rfl
    | cons token rest =>
      dsimp only
      rw [List.headD_cons, List.tail_cons]
      by_cases hcomma : token = .symbol .comma
      · rw [if_pos hcomma, if_pos hcomma]
        rfl
      · rw [if_neg hcomma, if_neg hcomma]

theorem run_accept (token : Token) (tokens : List Token) :
    (accept token).run tokens =
      if tokens.headD .stop = token then .ok (true, tokens.tail) else .ok (false, tokens) := by
  unfold accept
  rw [run_bind]
  change Reader.run (if tokens.headD .stop = token then _ else _) tokens = _
  split <;> rfl

theorem run_commaStep (item : Reader α) (as : List α) (tokens : List Token) :
    (commaStep item as).run tokens =
      if tokens.headD .stop = .symbol .comma then
        (item.run tokens.tail).map fun found => (.inl (as ++ [found.1]), found.2)
      else .ok (.inr as, tokens) := by
  unfold commaStep
  rw [run_bind, run_accept]
  by_cases hcomma : tokens.headD .stop = .symbol .comma
  · rw [if_pos hcomma, if_pos hcomma]
    dsimp only
    rw [if_pos rfl, run_bind]
    cases item.run tokens.tail <;> rfl
  · rw [if_neg hcomma, if_neg hcomma]
    rfl

theorem readCommas_eq (item : Reader α) (as : List α) (tokens : List Token) :
    readCommas item as tokens = Walk.readOn (readCommas item) ((commaStep item as).run tokens) := by
  rw [run_commaStep]
  by_cases hcomma : tokens.headD .stop = .symbol .comma
  · rw [readCommas, if_pos hcomma, if_pos hcomma, run_separated]
    cases item.run tokens.tail with
    | error fault => rfl
    | ok found => exact readCommas_append item as [found.1] found.2
  · rw [readCommas, if_neg hcomma, if_neg hcomma]
    rfl

/-- What is read of linked items when some have been read. -/
def readChain (item : β → Reader α) (more : Token → Option β) (found : List α × β)
    (tokens : List Token) : Except SyntaxFault (List α × List Token) :=
  ((chain item more found.2).run tokens).map fun rest => (found.1 ++ rest.1, rest.2)

theorem readChain_eq (item : β → Reader α) {more : Token → Option β} (hstop : more .stop = none)
    (found : List α × β) (tokens : List Token) :
    readChain item more found tokens =
      Walk.readOn (readChain item more) ((chainStep item more found).run tokens) := by
  unfold readChain chainStep
  change Except.map _ (runChain _ _ _ _) = _
  rw [runChain, run_bind]
  cases (item found.2).run tokens with
  | error fault => rfl
  | ok first =>
    obtain ⟨a, left⟩ := first
    dsimp only
    rw [run_bind]
    cases left with
    | nil =>
      dsimp only [peek, List.headD_nil]
      rw [hstop]
      rfl
    | cons token rest =>
      dsimp only [peek, List.headD_cons]
      cases more token with
      | none => rfl
      | some b =>
        dsimp only
        rw [run_bind]
        change Except.map _ (Except.map _ ((chain item more b).run rest)) =
          Except.map _ ((chain item more b).run rest)
        cases (chain item more b).run rest with
        | error fault => rfl
        | ok others => simp [Except.map]

theorem Spends.bind {r : Reader α} (h : r.Spends fun _ => True) (f : α → Reader β)
    (sort : β → Prop) : (r >>= f).Spends sort := by
  intro tokens b left _ hrun
  rw [run_bind] at hrun
  cases hr : r.run tokens with
  | error fault =>
    rw [hr] at hrun
    cases hrun
  | ok found =>
    rw [hr] at hrun
    exact Nat.lt_of_le_of_lt ((f found.1).leaves hrun).length_le
      (h tokens found.1 found.2 trivial hr)

/-- Where a token is taken if it comes next, only the case without it has to be looked at. -/
theorem Spends.accept {token : Token} (hne : token ≠ .stop) {f : Bool → Reader α}
    {sort : α → Prop} (h : (f false).Spends sort) : (accept token >>= f).Spends sort := by
  intro tokens a left hsort hrun
  rw [run_bind, run_accept] at hrun
  by_cases htoken : tokens.headD .stop = token
  · rw [if_pos htoken] at hrun
    have hle := ((f true).leaves hrun).length_le
    cases tokens with
    | nil => exact absurd htoken.symm hne
    | cons first rest => exact Nat.lt_succ_of_le hle
  · rw [if_neg htoken] at hrun
    exact h tokens a left hsort hrun

theorem spends_commaStep (item : Reader α) (as : List α) :
    (commaStep item as).Spends (·.isLeft) := by
  refine Spends.accept (by decide) ?_
  rintro tokens found left hleft h
  cases h
  cases hleft

theorem spends_chainStep {item : β → Reader α} (h : ∀ b, (item b).Spends fun _ => True)
    (more : Token → Option β) (found : List α × β) (sort : List α × β ⊕ List α → Prop) :
    (chainStep item more found).Spends sort :=
  (h found.2).bind _ sort

end Reader

namespace Walk.Follows

variable {α β : Type}

theorem commaRound {item : Walk α} {r : Reader α} (h : Follows item r.run) (as : List α) :
    Follows (commaRound item as) (Reader.commaStep r as).run :=
  (eat (by decide)).bind fun _ => .ite (h.bind fun _ => .pure _) (.pure _)

theorem commaLoop {item : Walk α} {r : Reader α} (h : Follows item r.run) (as : List α) :
    Follows (Walk.loop (Walk.commaRound item) as) (Reader.readCommas r as) :=
  loop h.commaRound (fun as => (h.commaRound as).consumes (Reader.spends_commaStep r as))
    (Reader.readCommas_eq r) as

theorem commas {item : Walk α} {r : Reader α} (h : Follows item r.run) :
    Follows (commas item) (Reader.separated r).run := by
  have hread : (Reader.separated r).run = fun tokens => match r.run tokens with
      | .error fault => .error fault
      | .ok (a, left) => Reader.readCommas r [a] left := funext (Reader.run_separated r)
  rw [hread]
  exact h.bind_read fun a => h.commaLoop [a]

variable {item : β → Walk α} {r : β → Reader α} {more : Token → Option β}

theorem chainRound (h : ∀ b, Follows (item b) (r b).run) (hstop : more .stop = none)
    (found : List α × β) :
    Follows (chainRound item more found) (Reader.chainStep r more found).run := by
  refine (h _).bind fun a => look fun next => ?_
  cases hmore : more next with
  | none => exact Follows.pure _ next
  | some b => exact advance_some hstop hmore (.pure _)

theorem chainRound_consumes (h : ∀ b, Follows (item b) (r b).run) (hstop : more .stop = none)
    (hspends : ∀ b, (r b).Spends fun _ => True) (sort : List α × β ⊕ List α → Prop)
    (found : List α × β) : (Walk.chainRound item more found).Consumes sort :=
  (chainRound h hstop found).consumes (Reader.spends_chainStep hspends more found sort)

theorem chainLoop (h : ∀ b, Follows (item b) (r b).run) (hstop : more .stop = none)
    (hspends : ∀ b, (r b).Spends fun _ => True) (found : List α × β) :
    Follows (Walk.loop (Walk.chainRound item more) found) (Reader.readChain r more found) :=
  loop (chainRound h hstop) (chainRound_consumes h hstop hspends _) (Reader.readChain_eq r hstop)
    found

theorem chain (h : ∀ b, Follows (item b) (r b).run) (hstop : more .stop = none)
    (hspends : ∀ b, (r b).Spends fun _ => True) (b : β) :
    Follows (chain item more b) (Reader.chain r more b).run := by
  have hread : (Reader.chain r more b).run = Reader.readChain r more ([], b) := by
    funext tokens
    unfold Reader.readChain
    cases (Reader.chain r more b).run tokens <;> rfl
  rw [hread]
  exact chainLoop h hstop hspends _

end Walk.Follows

end Tabular
