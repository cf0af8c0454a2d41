import BracketScript.Proofs.Script

/-!
# The grammar of expressions

Expressions are what can be derived from the loosest level of a grammar. A level joins operands of
the next tighter level by its operators, from left to right; below the operators are signs, and then
literals, names, calls and parentheses, in which the grammar starts again. The parser reads the
tokens of one level off the front of a list and leaves the rest. It reads only what can be derived,
and it reads all of it, provided that the token that follows could not have gone on with what is
read.

## Main definitions

* `Expr.Level`: the levels of the grammar, with their operators and operands
* `Expr.Derives`: the tokens and the expression that are derived from a level
* `Expr.Level.parser`: the parser of a level
* `Expr.Level.resume`: what is left to do for a level once something has been derived from it

## Main results

* `Expr.Level.parser_sound`: what a level reads is derived from it
* `Expr.Derives.parser_append`: what is derived from a level is read
* `Expr.parses_exactly`: the parser accepts the grammar, and nothing else
-/

namespace BracketScript.Expr

/-! ### The grammar -/

/-- The levels of the grammar, from the loosest to the tightest. -/
inductive Level where
  | or
  | and
  | relation
  | sum
  | product
  | unary
  | primary
  deriving DecidableEq, Repr

namespace Level

/-- The level that the operands of a level are derived from. -/
def operand? : Level → Option Level
  | or => some and
  | and => some relation
  | relation => some sum
  | sum => some product
  | product => some unary
  | unary => some primary
  | primary => none

/-- The operators that join the operands of a level. -/
def operators : Level → List (Token × BinaryOp)
  | or => [(.or, .or)]
  | and => [(.and, .and)]
  | relation => [(.equal, .eq), (.notEqual, .ne), (.less, .lt), (.lessEqual, .le), (.greater, .gt),
      (.greaterEqual, .ge), (.matching, .matching), (.notMatching, .notMatching)]
  | sum => [(.plus, .add), (.minus, .sub)]
  | product => [(.star, .mul), (.slash, .div), (.percent, .rem)]
  | unary | primary => []

end Level

/-- The operators that stand before their operand. -/
def signs : List (Token × UnaryOp) := [(.minus, .neg), (.bang, .not)]

/-- The tokens and the expression that are derived from a level. -/
inductive Derives : Level → List Token → Expr → Prop
  /-- A single operand. -/
  | operand {level tighter : Level} {ts : List Token} {e : Expr} :
      level.operand? = some tighter → Derives tighter ts e → Derives level ts e
  /-- One more operand, with all before it on the left of the operator. -/
  | binary {level tighter : Level} {t : Token} {op : BinaryOp} {ls rs : List Token}
      {left right : Expr} :
      level.operand? = some tighter → (t, op) ∈ level.operators → Derives level ls left →
      Derives tighter rs right → Derives level (ls ++ t :: rs) (.binary op left right)
  | sign {t : Token} {op : UnaryOp} {ts : List Token} {e : Expr} :
      (t, op) ∈ signs → Derives .unary ts e → Derives .unary (t :: ts) (.unary op e)
  | int (n : Int64) : Derives .primary [.int n] (.int n)
  | str (s : String) : Derives .primary [.str s] (.str s)
  | true : Derives .primary [.ident "true"] (.bool true)
  | false : Derives .primary [.ident "false"] (.bool false)
  | var {name : String} : name ≠ "true" → name ≠ "false" →
      Derives .primary [.ident name] (.var name)
  /-- A call with any number of arguments, also with none, and commas between them. -/
  | call (name : String) {arguments : List (List Token × Expr)} :
      (∀ a ∈ arguments, Derives .or a.1 a.2) →
      Derives .primary
        (.ident name :: .leftParen ::
          ([.comma].intercalate (arguments.map Prod.fst) ++ [.rightParen]))
        (.call name (arguments.map Prod.snd))
  | group {ts : List Token} {e : Expr} :
      Derives .or ts e → Derives .primary (.leftParen :: (ts ++ [.rightParen])) e

/-! ### The parsers of the levels -/

namespace Level

/-- The operator of a level that a token stands for. -/
def op? : Level → Token → Option BinaryOp
  | or => orOp?
  | and => andOp?
  | relation => relationOp?
  | sum => sumOp?
  | product => productOp?
  | unary | primary => fun _ => none

/-- The parser of a level, from the parser of what stands between parentheses. -/
def parser (expr : Parser) : Level → Parser
  | or => chain orOp? (chain andOp? (chain relationOp? (chain sumOp? (chain productOp?
      (unaries (Expr.primary expr))))))
  | and => chain andOp? (chain relationOp? (chain sumOp? (chain productOp?
      (unaries (Expr.primary expr)))))
  | relation => chain relationOp? (chain sumOp? (chain productOp? (unaries (Expr.primary expr))))
  | sum => chain sumOp? (chain productOp? (unaries (Expr.primary expr)))
  | product => chain productOp? (unaries (Expr.primary expr))
  | unary => unaries (Expr.primary expr)
  | primary => Expr.primary expr

variable {level tighter : Level} {t : Token} {op : BinaryOp} {expr : Parser}

theorem op?_eq_some_iff : level.op? t = some op ↔ (t, op) ∈ level.operators := by
  cases level <;> cases t <;>
    simp [op?, operators, orOp?, andOp?, relationOp?, sumOp?, productOp?, eq_comm]

/-- The parser of a level with operators is a chain over the parser of its operands. -/
theorem parser_eq_chain (h : level.operand? = some tighter) (hne : level ≠ .unary) :
    level.parser expr = chain level.op? (tighter.parser expr) := by
  cases level <;> cases h <;> first | rfl | exact absurd rfl hne

theorem parser_unary : Level.unary.parser expr = unaries (Level.primary.parser expr) := rfl

theorem parser_sign {sign : UnaryOp} (h : (t, sign) ∈ signs) (ts : List Token) :
    Level.unary.parser expr (t :: ts) =
      (Level.unary.parser expr ts).map fun result => (.unary sign result.1, result.2) := by
  simp only [signs, List.mem_cons, Prod.mk.injEq, List.not_mem_nil, or_false] at h
  rcases h with ⟨rfl, rfl⟩ | ⟨rfl, rfl⟩ <;> rfl

end Level

/-! ### Names and parentheses -/

/-- A name is read alone where no arguments follow. -/
theorem primary_ident {expr : Parser} (name : String) {rest : List Token}
    (h : ∀ t ∈ rest.head?, t ≠ .leftParen) :
    primary expr (.ident name :: rest) = .ok (ofName name, rest) := by
  cases rest with
  | nil => rfl
  | cons t ts => cases t <;> first | rfl | exact absurd rfl (h _ rfl)

/-- What stands in parentheses is read up to the closing one. -/
theorem primary_leftParen_eq_ok_iff {expr : Parser} {ts rest : List Token} {e : Expr} :
    primary expr (.leftParen :: ts) = .ok (e, rest) ↔ expr ts = .ok (e, .rightParen :: rest) := by
  delta primary
  dsimp only
  rcases expr ts with fault | ⟨e', _ | ⟨t, rest'⟩⟩
  · simp
  · simp
  · cases t <;> simp

/-! ### What is read can be derived -/

/-- What the parser takes off the front of a list of tokens is derived from the level. -/
def Reads (p : Parser) (level : Level) : Prop :=
  ∀ ts e rest, p ts = .ok (e, rest) → ∃ us, ts = us ++ rest ∧ Derives level us e

theorem intercalate_singleton_cons {α : Type} (a : α) (x : List α) (xs : List (List α)) :
    [a].intercalate (x :: xs) = x ++ xs.flatMap (a :: ·) := by
  induction xs generalizing x with
  | nil => simp
  | cons y ys ih => rw [List.intercalate_cons_cons, ih]; simp

theorem derives_ofName (name : String) : Derives .primary [.ident name] (ofName name) := by
  unfold ofName
  split
  · next h => exact h ▸ .true
  · next h =>
    split
    · next h' => exact h' ▸ .false
    · next h' => exact .var h h'

section Reads

variable {p expr : Parser} {level tighter : Level}

/-- What stands on the left of an operator has been derived already, and grows with every round. -/
theorem chainFrom_sound (hlevel : level.operand? = some tighter) (hp : Reads p tighter)
    {count : Nat} {left e : Expr} {ls ts rest : List Token} (hleft : Derives level ls left)
    (h : chainFrom level.op? p count left ts = .ok (e, rest)) :
    ∃ us, ts = us ++ rest ∧ Derives level (ls ++ us) e := by
  induction count generalizing left ls ts with
  | zero =>
    cases h
    exact ⟨[], rfl, by simpa using hleft⟩
  | succ count ih =>
    cases ts with
    | nil =>
      cases h
      exact ⟨[], rfl, by simpa using hleft⟩
    | cons t ts =>
      unfold chainFrom at h
      cases hop : level.op? t with
      | none =>
        simp only [hop] at h
        cases h
        exact ⟨[], rfl, by simpa using hleft⟩
      | some op =>
        simp only [hop] at h
        cases hts : p ts with
        | error fault => simp [hts] at h
        | ok result =>
          obtain ⟨right, mid⟩ := result
          simp only [hts] at h
          obtain ⟨rs, rfl, hright⟩ := hp ts right mid hts
          obtain ⟨us, rfl, hus⟩ :=
            ih (.binary hlevel (Level.op?_eq_some_iff.mp hop) hleft hright) h
          exact ⟨t :: rs ++ us, by simp, by simpa using hus⟩

theorem chain_sound (level : Level) (hlevel : level.operand? = some tighter)
    (hp : Reads p tighter) :
    Reads (chain level.op? p) level := by
  intro ts e rest h
  unfold chain at h
  cases hts : p ts with
  | error fault => simp [hts] at h
  | ok result =>
    obtain ⟨left, mid⟩ := result
    simp only [hts] at h
    obtain ⟨ls, rfl, hleft⟩ := hp ts left mid hts
    obtain ⟨us, rfl, hus⟩ := chainFrom_sound hlevel hp (.operand hlevel hleft) h
    exact ⟨ls ++ us, by simp, hus⟩

theorem unaries_sound (hp : Reads p .primary) : Reads (unaries p) .unary := by
  intro ts
  fun_induction unaries p ts with
  | case1 ts ih =>
    intro e rest h
    obtain ⟨⟨operand, _⟩, hts, ⟨⟩⟩ := exceptMap_eq_ok_iff.mp h
    obtain ⟨us, rfl, hus⟩ := ih _ _ hts
    exact ⟨.minus :: us, rfl, .sign (by decide) hus⟩
  | case2 ts ih =>
    intro e rest h
    obtain ⟨⟨operand, _⟩, hts, ⟨⟩⟩ := exceptMap_eq_ok_iff.mp h
    obtain ⟨us, rfl, hus⟩ := ih _ _ hts
    exact ⟨.bang :: us, rfl, .sign (by decide) hus⟩
  | case3 ts =>
    intro e rest h
    obtain ⟨us, hts, hus⟩ := hp _ _ _ h
    exact ⟨us, hts, .operand rfl hus⟩

/-- The arguments after the first one come with a comma each. -/
theorem argumentsFrom_sound (hexpr : Reads expr .or) {count : Nat} {reversed es : List Expr}
    {ts rest : List Token} (h : argumentsFrom expr count reversed ts = .ok (es, rest)) :
    ∃ more : List (List Token × Expr), ts = (more.map Prod.fst).flatMap (.comma :: ·) ++ rest ∧
      es = reversed.reverse ++ more.map Prod.snd ∧ ∀ a ∈ more, Derives .or a.1 a.2 := by
  fun_induction argumentsFrom expr count reversed ts with
  | case1 count reversed ts e mid hts ih =>
    obtain ⟨us, rfl, hus⟩ := hexpr _ _ _ hts
    obtain ⟨more, rfl, rfl, hmore⟩ := ih h
    exact ⟨(us, e) :: more, by simp, by simp, List.forall_mem_cons.mpr ⟨hus, hmore⟩⟩
  | case2 => cases h
  | case3 =>
    cases h
    exact ⟨[], by simp, by simp, by simp⟩

theorem callArguments_sound (hexpr : Reads expr .or) {name : String} {ts rest : List Token}
    {e : Expr} (h : callArguments expr name ts = .ok (e, rest)) :
    ∃ us, ts = us ++ rest ∧ Derives .primary (.ident name :: .leftParen :: us) e := by
  unfold callArguments at h
  split at h
  · cases h
    exact ⟨[.rightParen], rfl, @Derives.call name [] (by simp)⟩
  · split at h
    · cases h
    next first mid hts =>
    split at h
    · cases h
    · next es mid' hmore =>
      cases h
      obtain ⟨us, rfl, hus⟩ := hexpr _ _ _ hts
      obtain ⟨more, rfl, rfl, hall⟩ := argumentsFrom_sound hexpr hmore
      refine ⟨[.comma].intercalate (((us, first) :: more).map Prod.fst) ++ [.rightParen], ?_,
        .call name (List.forall_mem_cons.mpr ⟨hus, hall⟩)⟩
      rw [List.map_cons, intercalate_singleton_cons]
      simp
    · cases h

theorem primary_sound (hexpr : Reads expr .or) : Reads (primary expr) .primary := by
  intro ts e rest h
  cases ts with
  | nil => cases h
  | cons t ts =>
    cases t with
    | int n =>
      cases h
      exact ⟨[.int n], rfl, .int n⟩
    | str s =>
      cases h
      exact ⟨[.str s], rfl, .str s⟩
    | ident name =>
      -- a name is that of a call if a parenthesis follows
      by_cases hcall : ts.head? = some .leftParen
      · obtain ⟨ts, rfl⟩ := List.head?_eq_some_iff.mp hcall
        obtain ⟨us, rfl, hus⟩ := callArguments_sound hexpr h
        exact ⟨_, rfl, hus⟩
      · rw [primary_ident name fun t ht heq => hcall (heq ▸ ht)] at h
        cases h
        exact ⟨[.ident name], rfl, derives_ofName name⟩
    | leftParen =>
      obtain ⟨us, rfl, hus⟩ := hexpr _ _ _ (primary_leftParen_eq_ok_iff.mp h)
      exact ⟨.leftParen :: (us ++ [.rightParen]), by simp, .group hus⟩
    | _ => cases h

/-- What a level reads is derived from it. -/
theorem Level.parser_sound (hexpr : Reads expr .or) (level : Level) :
    Reads (level.parser expr) level := by
  have primary : Reads (Level.primary.parser expr) .primary := primary_sound hexpr
  have unary : Reads (Level.unary.parser expr) .unary := unaries_sound primary
  have product : Reads (Level.product.parser expr) .product := chain_sound .product rfl unary
  have sum : Reads (Level.sum.parser expr) .sum := chain_sound .sum rfl product
  have relation : Reads (Level.relation.parser expr) .relation := chain_sound .relation rfl sum
  have and : Reads (Level.and.parser expr) .and := chain_sound .and rfl relation
  have or : Reads (Level.or.parser expr) .or := chain_sound .or rfl and
  cases level <;> assumption

end Reads

theorem ofTokensWithin_succ (depth : Nat) :
    ofTokensWithin (depth + 1) = Level.or.parser (ofTokensWithin depth) := rfl

theorem ofTokensWithin_sound (depth : Nat) : Reads (ofTokensWithin depth) .or := by
  induction depth with
  | zero =>
    intro ts e rest h
    cases h
  | succ depth ih =>
    rw [ofTokensWithin_succ]
    exact Level.parser_sound ih .or

/-! ### What can be derived is read -/

namespace Level

/-- How tightly the operators of a level bind. -/
def rank : Level → Nat
  | or => 0
  | and => 1
  | relation => 2
  | sum => 3
  | product => 4
  | unary => 5
  | primary => 6

/-- The tokens cannot go on with an operand of the level: they do not open the arguments of a call,
and do not start with an operator that binds more tightly. -/
def Ends (level : Level) (rest : List Token) : Prop :=
  ∀ t ∈ rest.head?, t ≠ .leftParen ∧ ∀ l : Level, level.rank < l.rank → l.op? t = none

/-- What is left to do for a level once something has been derived from it: to read the operators of
the level and their operands. -/
def resume (expr : Parser) (level : Level) (left : Expr) (rest : List Token) :
    Except Fault (Expr × List Token) :=
  match level.operand? with
  | some tighter => chainFrom level.op? (tighter.parser expr) rest.length left rest
  | none => .ok (left, rest)

variable {level tighter l : Level} {t : Token} {op : BinaryOp} {expr : Parser} {e : Expr}
  {rest : List Token}

theorem rank_operand (h : level.operand? = some tighter) : tighter.rank = level.rank + 1 := by
  cases level <;> cases h <;> rfl

theorem Ends.operand (h : level.operand? = some tighter) (hends : level.Ends rest) :
    tighter.Ends rest := by
  have := rank_operand h
  exact fun t ht => ⟨(hends t ht).1, fun l hl => (hends t ht).2 l (by omega)⟩

/-- An operator belongs to one level only. -/
theorem op?_of_ne (h : (t, op) ∈ level.operators) (hne : l ≠ level) : l.op? t = none := by
  rw [← op?_eq_some_iff] at h
  cases t <;> cases level <;> cases h <;> cases l <;> first | rfl | exact absurd rfl hne

theorem ends_operator (h : (t, op) ∈ level.operators) (ts : List Token) :
    level.Ends (t :: ts) := by
  intro t' ht'
  cases ht'
  refine ⟨?_, fun l hl => op?_of_ne h ?_⟩
  · rintro rfl
    rw [← op?_eq_some_iff] at h
    cases level <;> cases h
  · rintro rfl
    exact absurd hl (Nat.lt_irrefl _)

/-- What closes a parenthesis or an argument is no operator. -/
theorem op?_close (h : t = .comma ∨ t = .rightParen) : level.op? t = none := by
  rcases h with rfl | rfl <;> cases level <;> rfl

theorem ends_close (h : ∀ t ∈ rest.head?, t = .comma ∨ t = .rightParen) : level.Ends rest :=
  fun t ht => ⟨by rcases h t ht with rfl | rfl <;> simp, fun _ _ => op?_close (h t ht)⟩

theorem chainFrom_of_none {op? : Token → Option BinaryOp} {p : Parser} {count : Nat}
    (h : ∀ t ∈ rest.head?, op? t = none) : chainFrom op? p count e rest = .ok (e, rest) := by
  cases count with
  | zero => rfl
  | succ count =>
    cases rest with
    | nil => rfl
    | cons t ts => simp [chainFrom, h t rfl]

/-- Nothing is left to do before a token that is no operator of the level. -/
theorem resume_of_none (h : ∀ t ∈ rest.head?, level.op? t = none) :
    level.resume expr e rest = .ok (e, rest) := by
  unfold resume
  split
  · exact chainFrom_of_none h
  · rfl

/-- An operand has been read in full when its level is looser than what follows. -/
theorem resume_operand (h : level.operand? = some tighter) (hends : level.Ends rest) :
    tighter.resume expr e rest = .ok (e, rest) := by
  have := rank_operand h
  exact resume_of_none fun t ht => (hends t ht).2 tighter (by omega)

end Level

/-- An operand never leaves more tokens than it was given, so the number of rounds that a chain is
allowed does not matter once it is that of the tokens. -/
theorem chainFrom_count {p : Parser} {level : Level} (hp : Reads p level)
    (op? : Token → Option BinaryOp) {count count' : Nat} {left : Expr} {ts : List Token}
    (h : ts.length ≤ count) (h' : ts.length ≤ count') :
    chainFrom op? p count left ts = chainFrom op? p count' left ts := by
  induction count generalizing count' left ts with
  | zero =>
    cases List.eq_nil_of_length_eq_zero (Nat.le_zero.mp h)
    cases count' <;> rfl
  | succ count ih =>
    cases ts with
    | nil => cases count' <;> rfl
    | cons t ts =>
      cases count' with
      | zero => exact absurd h' (by simp)
      | succ count' =>
        simp only [List.length_cons, Nat.add_le_add_iff_right] at h h'
        simp only [chainFrom]
        cases op? t with
        | none => rfl
        | some op =>
          cases hts : p ts with
          | error fault => rfl
          | ok result =>
            obtain ⟨right, rest⟩ := result
            obtain ⟨us, rfl, -⟩ := hp _ _ _ hts
            simp only [List.length_append] at h h'
            exact ih (by omega) (by omega)

/-- Nothing that is derived is empty or starts with what closes a parenthesis, and what is derived
from the tightest level starts with no sign. -/
theorem Derives.exists_cons {level : Level} {ts : List Token} {e : Expr} (h : Derives level ts e) :
    ∃ t us, ts = t :: us ∧ t ≠ .rightParen ∧
      (level = .primary → t ≠ .minus ∧ t ≠ .bang) := by
  induction h with
  | operand htighter _ ih =>
    obtain ⟨t, us, rfl, hclose, -⟩ := ih
    exact ⟨t, us, rfl, hclose, by rintro rfl; cases htighter⟩
  | binary htighter _ _ _ ih _ =>
    obtain ⟨t, us, rfl, hclose, -⟩ := ih
    exact ⟨t, _, rfl, hclose, by rintro rfl; cases htighter⟩
  | sign hsign =>
    refine ⟨_, _, rfl, ?_, by rintro ⟨⟩⟩
    rintro rfl
    simp [signs] at hsign
  | _ => exact ⟨_, _, rfl, by simp, by simp⟩

theorem unaries_of_primary {p : Parser} {ts : List Token} {e : Expr} (h : Derives .primary ts e)
    (rest : List Token) : unaries p (ts ++ rest) = p (ts ++ rest) := by
  obtain ⟨t, us, rfl, -, hsign⟩ := h.exists_cons
  obtain ⟨hminus, hbang⟩ := hsign rfl
  cases t <;> first | rfl | contradiction

theorem length_le_length_flatMap_cons {α : Type} (a : α) (xss : List (List α)) :
    xss.length ≤ (xss.flatMap (a :: ·)).length := by
  induction xss with
  | nil => simp
  | cons xs xss ih =>
    simp only [List.flatMap_cons, List.length_append, List.length_cons]
    omega

theorem length_le_intercalate {α : Type} (a : α) {xs : List α} {xss : List (List α)}
    (h : xs ∈ xss) : xs.length ≤ ([a].intercalate xss).length := by
  induction xss with
  | nil => cases h
  | cons ys xss ih =>
    cases xss with
    | nil => simp_all
    | cons zs xss =>
      rw [List.intercalate_cons_cons]
      simp only [List.length_append]
      rcases List.mem_cons.mp h with rfl | h
      · omega
      · have := ih h
        omega

/-- The parser reads the tokens as the expression before any token that closes a parenthesis or an
argument, and at the end. -/
def ReadsOff (expr : Parser) (a : List Token × Expr) : Prop :=
  ∀ rest, (∀ t ∈ rest.head?, t = .comma ∨ t = .rightParen) → expr (a.1 ++ rest) = .ok (a.2, rest)

section ReadsOff

variable {expr : Parser}

theorem argumentsFrom_append {more : List (List Token × Expr)}
    (hmore : ∀ a ∈ more, ReadsOff expr a) {count : Nat} (hcount : more.length ≤ count)
    (reversed : List Expr) (rest : List Token) :
    argumentsFrom expr count reversed
        ((more.map Prod.fst).flatMap (.comma :: ·) ++ .rightParen :: rest) =
      .ok (reversed.reverse ++ more.map Prod.snd, .rightParen :: rest) := by
  induction more generalizing count reversed with
  | nil => cases count <;> simp [argumentsFrom]
  | cons a more ih =>
    obtain ⟨ha, hmore⟩ := List.forall_mem_cons.mp hmore
    cases count with
    | zero => exact absurd hcount (by simp)
    | succ count =>
      have hread := ha ((more.map Prod.fst).flatMap (.comma :: ·) ++ .rightParen :: rest)
        (by cases more <;> simp)
      simp only [List.map_cons, List.flatMap_cons, List.cons_append, List.append_assoc,
        argumentsFrom, hread]
      rw [ih hmore (by simpa using hcount)]
      simp

theorem callArguments_append {name : String} {arguments : List (List Token × Expr)}
    (hread : ∀ a ∈ arguments, ReadsOff expr a)
    (hderives : ∀ a ∈ arguments, Derives .or a.1 a.2) (rest : List Token) :
    callArguments expr name ([.comma].intercalate (arguments.map Prod.fst) ++ .rightParen :: rest) =
      .ok (.call name (arguments.map Prod.snd), rest) := by
  cases arguments with
  | nil => simp [callArguments]
  | cons a more =>
    obtain ⟨ha, hmore⟩ := List.forall_mem_cons.mp hread
    obtain ⟨t, us, hus, hclose, -⟩ := (hderives a (by simp)).exists_cons
    have hfirst := ha ((more.map Prod.fst).flatMap (.comma :: ·) ++ .rightParen :: rest)
      (by cases more <;> simp)
    have hlength : more.length ≤
        ((more.map Prod.fst).flatMap (.comma :: ·) ++ .rightParen :: rest).length := by
      have := length_le_length_flatMap_cons Token.comma (more.map Prod.fst)
      simp only [List.length_map] at this
      simp only [List.length_append]
      omega
    rw [List.map_cons, intercalate_singleton_cons, List.append_assoc, callArguments.eq_2, hfirst]
    · simp only [argumentsFrom_append hmore hlength, List.reverse_singleton,
        List.singleton_append, List.map_cons]
    · intro ts h
      rw [hus] at h
      exact hclose (List.cons.inj h).1

/-- Nothing goes on after a token that closes, so what the loosest level has derived is read off. -/
theorem readsOff_of_resume {depth : Nat} {us : List Token} {e : Expr}
    (h : ∀ {rest}, Level.or.Ends rest →
      Level.or.parser (ofTokensWithin depth) (us ++ rest) =
        Level.or.resume (ofTokensWithin depth) e rest) :
    ReadsOff (ofTokensWithin (depth + 1)) (us, e) := by
  intro rest hrest
  rw [ofTokensWithin_succ, h (Level.ends_close hrest),
    Level.resume_of_none fun t ht => Level.op?_close (hrest t ht)]

end ReadsOff

/-- What is derived from a level is read, as far as operators of the level go on with it. The
induction is on the derivation; the depth that is allowed only matters for what stands in
parentheses. -/
theorem Derives.parser_append {level : Level} {us : List Token} {e : Expr}
    (h : Derives level us e) {depth : Nat} (hdepth : us.length ≤ depth + 1) {rest : List Token}
    (hends : level.Ends rest) :
    level.parser (ofTokensWithin depth) (us ++ rest) =
      level.resume (ofTokensWithin depth) e rest := by
  induction h generalizing depth rest with
  | @operand level tighter us e htighter hus ih =>
    have hread := ih hdepth (hends.operand htighter)
    rw [Level.resume_operand htighter hends] at hread
    -- of the levels that have operands, all but that of signs are chains
    by_cases hunary : level = .unary
    · subst hunary
      cases htighter
      rw [Level.parser_unary, unaries_of_primary hus, hread, Level.resume_of_none fun _ _ => rfl]
    · simp only [Level.parser_eq_chain htighter hunary, chain, hread, Level.resume, htighter]
  | @binary level tighter t op ls rs left right htighter hop hleft hright ihl ihr =>
    simp only [List.length_append, List.length_cons] at hdepth
    -- the left operand is read up to the operator, with which the chain goes on
    have hl := @ihl depth (by omega) _ (Level.ends_operator hop (rs ++ rest))
    have hr := @ihr depth (by omega) _ (hends.operand htighter)
    rw [Level.resume_operand htighter hends] at hr
    rw [List.append_assoc, List.cons_append, hl]
    simp only [Level.resume, htighter, List.length_cons, chainFrom,
      Level.op?_eq_some_iff.mpr hop, hr]
    exact chainFrom_count (Level.parser_sound (ofTokensWithin_sound depth) tighter) _
      (by simp) (Nat.le_refl _)
  | @sign t op us e hsign hus ih =>
    have hread := ih (Nat.le_of_succ_le hdepth) hends
    rw [Level.resume_of_none fun _ _ => rfl] at hread ⊢
    rw [List.cons_append, Level.parser_sign hsign, hread]
    rfl
  | int n => rfl
  | str s => rfl
  | true => exact primary_ident "true" (fun t ht => (hends t ht).1)
  | false => exact primary_ident "false" (fun t ht => (hends t ht).1)
  | @var name htrue hfalse =>
    have hname : ofName name = .var name := by simp [ofName, htrue, hfalse]
    rw [← hname]
    exact primary_ident name fun t ht => (hends t ht).1
  | @call name arguments hall ih =>
    simp only [List.length_cons, List.length_append] at hdepth
    -- the two parentheses leave one level of depth for what is between them
    obtain ⟨depth, rfl⟩ := Nat.exists_eq_add_of_le' (show 1 ≤ depth by omega)
    have hread : ∀ a ∈ arguments, ReadsOff (ofTokensWithin (depth + 1)) a := by
      intro a ha
      have := length_le_intercalate Token.comma (List.mem_map_of_mem (f := Prod.fst) ha)
      exact readsOff_of_resume (ih a ha (by omega))
    rw [List.cons_append, List.cons_append, List.append_assoc]
    exact callArguments_append hread hall rest
  | @group us e hus ih =>
    simp only [List.length_cons, List.length_append] at hdepth
    obtain ⟨depth, rfl⟩ := Nat.exists_eq_add_of_le' (show 1 ≤ depth by omega)
    have hread : ReadsOff (ofTokensWithin (depth + 1)) (us, e) := readsOff_of_resume (ih (by omega))
    rw [Level.resume_of_none fun _ _ => rfl, List.cons_append, List.append_assoc]
    exact primary_leftParen_eq_ok_iff.mpr (hread (.rightParen :: rest) (by simp))

/-! ### The expression of a list of tokens -/

theorem derives_of_ofTokens {ts : List Token} {e : Expr} (h : ofTokens ts = .ok e) :
    Derives .or ts e := by
  unfold ofTokens at h
  split at h
  · cases h
  · next hts =>
    cases h
    obtain ⟨us, rfl, hus⟩ := ofTokensWithin_sound _ _ _ _ hts
    simpa using hus
  · cases h

theorem Derives.ofTokens_eq {ts : List Token} {e : Expr} (h : Derives .or ts e) :
    ofTokens ts = .ok e := by
  obtain ⟨t, us, rfl, -⟩ := h.exists_cons
  have hends : Level.or.Ends [] := by simp [Level.Ends]
  have hread := h.parser_append (Nat.le_refl (us.length + 1)) hends
  rw [Level.resume_of_none (by simp), ← ofTokensWithin_succ, List.append_nil] at hread
  unfold ofTokens
  rw [List.length_cons, hread]

/-- The parser accepts the grammar, and nothing else: it gives an expression for a list of tokens
exactly if the expression is derived from the list, so that no list has two meanings. A list from
which no expression is derived has a fault, which makes any text with these tokens malformed. -/
theorem parses_exactly (ts : List Token) :
    (∀ e, ofTokens ts = .ok e ↔ Derives .or ts e) ∧
      (∀ e e', Derives .or ts e → Derives .or ts e' → e = e') ∧
      ((¬ ∃ e, Derives .or ts e) → ∃ fault, ofTokens ts = .error fault ∧
        ∀ source, Token.scan source = ts →
          parse source = .error (.malformed (Text.trim source ++ ": " ++ fault.message))) := by
  refine ⟨fun e => ⟨derives_of_ofTokens, Derives.ofTokens_eq⟩, fun e e' h h' => ?_, fun h => ?_⟩
  · exact Except.ok.inj (h.ofTokens_eq.symm.trans h'.ofTokens_eq)
  · cases hts : ofTokens ts with
    | ok e => exact absurd ⟨e, derives_of_ofTokens hts⟩ h
    | error fault =>
      refine ⟨fault, rfl, fun source hsource => ?_⟩
      rw [parse, hsource, hts]
      rfl

/-- Products bind more tightly than sums, and a parenthesis has to be closed. -/
theorem parses_exactly_sum_of_product :
    (∀ e, Derives .or [.int 1, .plus, .int 2, .star, .int 3] e →
      e = .binary .add (.int 1) (.binary .mul (.int 2) (.int 3))) ∧
      parse "(1" = .error (.malformed "(1: expected ')'") := by
  constructor
  · intro e he
    exact (parses_exactly _).2.1 e _ he (((parses_exactly _).1 _).mp rfl)
  · have hts : Token.scan "(1" = [.leftParen, .int 1] := by decide
    have hfault : ofTokens [.leftParen, .int 1] = .error .unclosedGroup := rfl
    have hnone : ¬ ∃ e, Derives .or [.leftParen, .int 1] e := by
      rintro ⟨e, he⟩
      have := ((parses_exactly _).1 e).mpr he
      rw [hfault] at this
      cases this
    obtain ⟨fault, hf, hparse⟩ := (parses_exactly _).2.2 hnone
    cases hfault.symm.trans hf
    exact (hparse "(1" hts).trans rfl

end BracketScript.Expr
