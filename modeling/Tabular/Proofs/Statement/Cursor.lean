import Mathlib.Data.List.TakeWhile
import Mathlib.Data.PFun
import Tabular.Statement.Grammar

namespace Tabular

structure Cursor where
  tokens : List Token
  position : Nat

namespace Cursor

/-- Tokens that do not end with the end mark are given one. -/
def start (tokens : List Token) : Cursor :=
  ⟨if tokens.getLast? = some .stop then tokens else tokens ++ [.stop], 0⟩

/-- The index is that of a token, so there is one. -/
def Valid (c : Cursor) : Prop :=
  c.position < c.tokens.length

/-- A cursor in front of an end mark, with some tokens passed and some ahead. -/
def facing (passed ahead behind : List Token) : Cursor :=
  ⟨passed ++ ahead ++ .stop :: behind, passed.length⟩

theorem start_of_not_mem {tokens : List Token} (h : .stop ∉ tokens) :
    start tokens = facing [] tokens [] := by
  unfold start facing
  rw [if_neg fun hlast => h (List.mem_of_getLast? hlast)]
  rfl

theorem start_append_stop (ahead rest : List Token) :
    ∃ behind, start (ahead ++ .stop :: rest) = facing [] ahead behind := by
  unfold start facing
  split
  · exact ⟨rest, rfl⟩
  · exact ⟨rest ++ [.stop], by simp⟩

end Cursor

section takeWhile

variable {front : List Token}

theorem takeWhile_of_not_mem (h : .stop ∉ front) : front.takeWhile (· ≠ .stop) = front := by
  refine List.takeWhile_eq_self_iff.mpr fun t ht => ?_
  exact decide_eq_true fun heq => h (heq ▸ ht)

theorem takeWhile_append_stop (h : .stop ∉ front) (rest : List Token) :
    (front ++ .stop :: rest).takeWhile (· ≠ .stop) = front := by
  rw [List.takeWhile_append_of_pos]
  · simp
  · exact fun t ht => decide_eq_true fun heq => h (heq ▸ ht)

theorem stop_not_mem_takeWhile (tokens : List Token) :
    .stop ∉ tokens.takeWhile (· ≠ .stop) := fun hmem => by
  simpa using List.mem_takeWhile_imp hmem

/-- Whatever the tokens are, there is an end mark behind those in front of the first. -/
theorem Cursor.start_eq_facing (tokens : List Token) :
    ∃ behind, start tokens = facing [] (tokens.takeWhile (· ≠ .stop)) behind := by
  by_cases hmem : .stop ∈ tokens
  · obtain ⟨front, rest, rfl, hfront⟩ := List.eq_append_cons_of_mem hmem
    rw [takeWhile_append_stop hfront]
    exact start_append_stop front rest
  · rw [takeWhile_of_not_mem hmem]
    exact ⟨[], start_of_not_mem hmem⟩

end takeWhile

theorem Cursor.valid_start (tokens : List Token) : (start tokens).Valid := by
  obtain ⟨behind, hstart⟩ := start_eq_facing tokens
  rw [hstart]
  exact List.length_pos_of_mem (List.mem_append_right _ List.mem_cons_self)

/-- A reader that leaves fewer tokens than it is given, if its result is of this sort. -/
def Reader.Spends (r : Reader α) (sort : α → Prop) : Prop :=
  ∀ tokens a left, sort a → r.run tokens = .ok (a, left) → left.length < tokens.length

/-- A step of a parser: a result or a fault, and where the cursor is left with it. An access past
the end of the tokens comes to nothing, as does a loop that never ends. -/
abbrev Walk := ExceptT SyntaxFault (StateT Cursor Part)

namespace Walk

variable {α β : Type}

def run (w : Walk α) (c : Cursor) : Part (Except SyntaxFault α × Cursor) :=
  w c

def fail (fault : SyntaxFault) : Walk α :=
  fun c => .some (.error fault, c)

def current : Walk Token :=
  fun c => (Part.ofOption c.tokens[c.position]?).map fun token => (.ok token, c)

/-- The cursor stays at the last token; without any token there is no last one. -/
def advance : Walk Unit :=
  fun c =>
    if c.tokens.isEmpty then .none
    else if c.position < c.tokens.length - 1 then
      .some (.ok (), { c with position := c.position + 1 })
    else .some (.ok (), c)

def expecting (expectation : Expectation) : Walk α := do
  fail (.expected expectation (← current))

def eat (token : Token) : Walk Bool := do
  if (← current) = token then
    advance
    return true
  else
    return false

def consume (token : Token) : Walk Unit := do
  unless ← eat token do
    expecting (.token token)

/-- What there is to do behind a round: nothing, or another round. -/
def turn : Except SyntaxFault (β ⊕ α) × Cursor → (Except SyntaxFault α × Cursor) ⊕ β × Cursor
  | (.error fault, c) => .inl (.error fault, c)
  | (.ok (.inr a), c) => .inl (.ok a, c)
  | (.ok (.inl b), c) => .inr (b, c)

/-- Rounds one after another, until one is the last or fails. -/
def loop (round : β → Walk (β ⊕ α)) (b : β) : Walk α :=
  fun c => PFun.fix (fun next => ((round next.1).run next.2).map turn) (b, c)

theorem run_bind (w : Walk α) (f : α → Walk β) (c : Cursor) :
    (w >>= f).run c = (w.run c).bind fun
      | (.error fault, c') => .some (.error fault, c')
      | (.ok a, c') => (f a).run c' := by
  change (w c).bind (fun left => ExceptT.bindCont f left.1 left.2) = _
  unfold run
  congr 1
  funext left
  obtain ⟨result, c'⟩ := left
  cases result <;> rfl

theorem run_loop {round : β → Walk (β ⊕ α)} {b : β} {c : Cursor}
    {left : Except SyntaxFault (β ⊕ α) × Cursor} :
    (round b).run c = .some left →
      (loop round b).run c = match left with
        | (.error fault, c') => .some (.error fault, c')
        | (.ok (.inr a), c') => .some (.ok a, c')
        | (.ok (.inl b'), c') => (loop round b').run c' := by
  intro h
  have hturn : turn left ∈ ((round b).run c).map turn := Part.mem_map turn (h ▸ Part.mem_some left)
  match left with
  | (.error fault, c') => exact Part.eq_some_iff.mpr (PFun.fix_stop hturn)
  | (.ok (.inr a), c') => exact Part.eq_some_iff.mpr (PFun.fix_stop hturn)
  | (.ok (.inl b'), c') => exact PFun.fix_fwd_eq hturn

theorem run_current_of_valid {c : Cursor} (h : c.Valid) :
    ∃ token, current.run c = .some (.ok token, c) := by
  refine ⟨c.tokens.get ⟨c.position, h⟩, ?_⟩
  change (Part.ofOption c.tokens[c.position]?).map _ = _
  rw [List.getElem?_eq_getElem h]
  exact Part.map_some _ _

/-- Wherever it moves the cursor to, there is a token again. -/
theorem run_advance_of_valid {c : Cursor} (h : c.Valid) :
    ∃ c', advance.run c = .some (.ok (), c') ∧ c'.tokens = c.tokens ∧ c'.Valid := by
  have hsome : ¬ c.tokens.isEmpty := fun hnone => by
    unfold Cursor.Valid at h
    rw [List.isEmpty_iff.mp hnone] at h
    exact absurd h (Nat.not_lt_zero _)
  unfold run advance
  rw [if_neg hsome]
  split
  · rename_i hless
    exact ⟨_, rfl, rfl, Nat.add_lt_of_lt_sub hless⟩
  · exact ⟨c, rfl, rfl, h⟩

variable {passed ahead behind : List Token}

theorem run_current :
    current.run (.facing passed ahead behind) =
      .some (.ok (ahead.headD .stop), .facing passed ahead behind) := by
  have hnext : (passed ++ ahead ++ Token.stop :: behind)[passed.length]? =
      some (ahead.headD .stop) := by
    cases ahead <;> simp
  change (Part.ofOption (passed ++ ahead ++ Token.stop :: behind)[passed.length]?).map _ = _
  rw [hnext]
  exact Part.map_some _ _

theorem run_advance {token : Token} :
    advance.run (.facing passed (token :: ahead) behind) =
      .some (.ok (), .facing (passed ++ [token]) ahead behind) := by
  unfold run advance Cursor.facing
  simp

/-- In front of this token the step takes some of the tokens ahead and leaves the cursor behind
them, as reading does with the same result; whatever is behind the end mark stays out of it. -/
def FollowsAt (next : Token) (w : Walk α)
    (read : List Token → Except SyntaxFault (α × List Token)) : Prop :=
  ∀ passed ahead behind, .stop ∉ ahead → ahead.headD .stop = next →
    ∃ result taken left, ahead = taken ++ left ∧
      w.run (.facing passed ahead behind) = .some (result, .facing (passed ++ taken) left behind) ∧
      read ahead = result.map (·, left)

/-- The step has a result from wherever an end mark is ahead, whatever token comes next. -/
def Follows (w : Walk α) (read : List Token → Except SyntaxFault (α × List Token)) : Prop :=
  ∀ next, w.FollowsAt next read

namespace Follows

variable {w : Walk α} {r : Reader α}

theorem run (h : Follows w r.run) (passed behind : List Token) (hstop : .stop ∉ ahead) :
    ∃ result taken left, ahead = taken ++ left ∧
      w.run (.facing passed ahead behind) = .some (result, .facing (passed ++ taken) left behind) ∧
      r.run ahead = result.map (·, left) :=
  h _ passed ahead behind hstop rfl

/-- What gives its result without moving. -/
theorem of_still {result : Except SyntaxFault α}
    {read : List Token → Except SyntaxFault (α × List Token)} {next : Token}
    (hrun : ∀ passed ahead behind, ahead.headD .stop = next →
      w.run (.facing passed ahead behind) = .some (result, .facing passed ahead behind))
    (hread : ∀ ahead : List Token, ahead.headD .stop = next → read ahead = result.map (·, ahead)) :
    w.FollowsAt next read := by
  intro passed ahead behind _ hnext
  refine ⟨result, [], ahead, rfl, ?_, hread ahead hnext⟩
  rw [List.append_nil]
  exact hrun passed ahead behind hnext

protected theorem pure (a : α) : Follows (pure a) (pure a : Reader α).run :=
  fun _ => of_still (fun _ _ _ _ => rfl) (fun _ _ => rfl)

theorem fail (fault : SyntaxFault) : Follows (fail fault) (Reader.fail fault : Reader α).run :=
  fun _ => of_still (fun _ _ _ _ => rfl) (fun _ _ => rfl)

theorem bind_read {f : α → Walk β} {read : α → List Token → Except SyntaxFault (β × List Token)}
    (hw : Follows w r.run) (hf : ∀ a, Follows (f a) (read a)) :
    Follows (w >>= f) fun tokens => match r.run tokens with
      | .error fault => .error fault
      | .ok (a, left) => read a left := by
  intro next passed ahead behind hstop hnext
  obtain ⟨result, taken, left, rfl, hrun, hread⟩ := hw.run passed behind hstop
  dsimp only
  rw [run_bind, hrun, hread, Part.bind_some]
  cases result with
  | error fault => exact ⟨.error fault, taken, left, rfl, rfl, rfl⟩
  | ok a =>
    have hleft : Token.stop ∉ left := fun hmem => hstop (List.mem_append_right taken hmem)
    obtain ⟨result, taken', left', rfl, hrun', hread'⟩ :=
      hf a _ (passed ++ taken) left behind hleft rfl
    refine ⟨result, taken ++ taken', left', (List.append_assoc ..).symm, ?_, hread'⟩
    rw [← List.append_assoc]
    exact hrun'

theorem bind {f : α → Walk β} {g : α → Reader β} (hw : Follows w r.run)
    (hf : ∀ a, Follows (f a) (g a).run) : Follows (w >>= f) (r >>= g).run :=
  hw.bind_read hf

/-- To follow what peeks, the next token may be told. -/
theorem look {f : Token → Walk β} {g : Token → Reader β}
    (h : ∀ next, (f next).FollowsAt next (g next).run) :
    Follows (Walk.current >>= f) (Reader.peek >>= g).run := by
  intro next passed ahead behind hstop hnext
  have hpeek : Reader.peek.run ahead = .ok (next, ahead) := by rw [← hnext]; rfl
  rw [run_bind, run_current, hnext, Part.bind_some, Reader.run_bind, hpeek]
  exact h next passed ahead behind hstop hnext

/-- Only in front of the end mark does the cursor stay. -/
theorem advance {next : Token} (hne : next ≠ .stop) (h : Follows w r.run) :
    (Walk.advance >>= fun _ => w).FollowsAt next (Reader.skip >>= fun _ => r).run := by
  intro passed ahead behind hstop hnext
  cases ahead with
  | nil => exact absurd hnext.symm hne
  | cons token ahead =>
    obtain ⟨result, taken, left, rfl, hrun, hread⟩ := h.run (passed ++ [token]) behind
      (List.not_mem_of_not_mem_cons hstop)
    refine ⟨result, token :: taken, left, rfl, ?_, hread⟩
    rw [run_bind, run_advance, Part.bind_some, List.append_cons passed token taken]
    exact hrun

/-- A token of a sort that the end mark is not of is not the end mark. -/
theorem advance_some {sort : Token → Option β} (hstop : sort .stop = none) {next : Token} {b : β}
    (hsort : sort next = some b) (h : Follows w r.run) :
    (Walk.advance >>= fun _ => w).FollowsAt next (Reader.skip >>= fun _ => r).run := by
  refine h.advance ?_
  rintro rfl
  rw [hstop] at hsort
  cases hsort

theorem ite {p : Prop} [Decidable p] {w' : Walk α} {r' : Reader α} (h : Follows w r.run)
    (h' : Follows w' r'.run) :
    Follows (if p then w else w') (if p then r else r').run := by
  split
  · exact h
  · exact h'

theorem expecting (expectation : Expectation) :
    Follows (expecting expectation) (Reader.failExpecting expectation : Reader α).run :=
  look fun _ => fail _ _

theorem eat {token : Token} (hne : token ≠ .stop) :
    Follows (eat token) (Reader.accept token).run := by
  refine look fun next => ?_
  split
  · rename_i heq
    exact advance (heq ▸ hne) (.pure true)
  · exact Follows.pure false next

theorem consume {token : Token} (hne : token ≠ .stop) :
    Follows (consume token) (Reader.expect token).run :=
  (eat hne).bind fun _ => .ite (.pure ()) (.expecting _)

end Follows

/-- A result of this sort costs a step a token at least, and none that is an end mark. -/
def Consumes (w : Walk α) (sort : α → Prop) : Prop :=
  ∀ passed ahead behind, .stop ∉ ahead → ∀ a c, sort a →
    w.run (.facing passed ahead behind) = .some (.ok a, c) →
    ∃ taken left, taken ≠ [] ∧ ahead = taken ++ left ∧ c = .facing (passed ++ taken) left behind

theorem Follows.consumes {w : Walk α} {r : Reader α} {sort : α → Prop} (h : Follows w r.run)
    (hspends : r.Spends sort) : w.Consumes sort := by
  intro passed ahead behind hstop a c ha hc
  obtain ⟨result, taken, left, rfl, hrun, hread⟩ := h.run passed behind hstop
  obtain ⟨rfl, rfl⟩ := Prod.mk.inj (Part.some_inj.mp (hc.symm.trans hrun))
  refine ⟨taken, left, ?_, rfl, rfl⟩
  rintro rfl
  exact absurd (hspends _ _ _ ha hread) (Nat.lt_irrefl _)

/-- What is read behind a round: the next rounds, unless it is the last or has failed. -/
def readOn (read : β → List Token → Except SyntaxFault (α × List Token)) :
    Except SyntaxFault ((β ⊕ α) × List Token) → Except SyntaxFault (α × List Token)
  | .error fault => .error fault
  | .ok (.inl b, left) => read b left
  | .ok (.inr a, left) => .ok (a, left)

/-- A round that goes on costs tokens, so no loop has more of them than there are tokens. -/
theorem Follows.loop {round : β → Walk (β ⊕ α)} {step : β → Reader (β ⊕ α)}
    {read : β → List Token → Except SyntaxFault (α × List Token)}
    (hround : ∀ b, Follows (round b) (step b).run)
    (hconsumes : ∀ b, (round b).Consumes (·.isLeft))
    (hread : ∀ b tokens, read b tokens = readOn read ((step b).run tokens)) (b : β) :
    Follows (loop round b) (read b) := by
  intro next passed ahead
  induction hn : ahead.length using Nat.strongRecOn generalizing b next passed ahead with
  | _ n ih =>
    intro behind hstop hnext
    obtain ⟨result, taken, left, rfl, hrun, hstep⟩ := (hround b).run passed behind hstop
    rw [run_loop hrun, hread, hstep]
    match result with
    | .error fault => exact ⟨.error fault, taken, left, rfl, rfl, rfl⟩
    | .ok (.inr a) => exact ⟨.ok a, taken, left, rfl, rfl, rfl⟩
    | .ok (.inl b') =>
      obtain ⟨spent, left', hne, -, hc⟩ := hconsumes b passed _ behind hstop _ _ rfl hrun
      have hless : left.length < n := by
        have hposition : (passed ++ taken).length = (passed ++ spent).length :=
          congrArg Cursor.position hc
        have hpos := List.length_pos_iff.mpr hne
        simp only [List.length_append] at hposition hn
        omega
      have hleft : Token.stop ∉ left := fun hmem => hstop (List.mem_append_right taken hmem)
      obtain ⟨result, taken', left', rfl, hrun', hread'⟩ :=
        ih _ hless b' _ (passed ++ taken) left rfl behind hleft rfl
      refine ⟨result, taken ++ taken', left', (List.append_assoc ..).symm, ?_, hread'⟩
      rw [← List.append_assoc]
      exact hrun'

end Walk

end Tabular
