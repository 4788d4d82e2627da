import MarkupQuery.Proofs.XPath.Soundness

/-!
# Every expression is read from sound tokens

For an amount of fuel, `Reads` says of all readers of expressions what they do (see
`MarkupQuery.Proofs.XPath.Soundness`), and each reader does it with more fuel if those that it calls
do: there is one lemma for each of them. By induction all readers do it with any fuel (`reads`), and
the tokens of a text that is an expression are sound (`sound_of_parse`).
-/

namespace MarkupQuery.XPath

variable {t : Token} {tokens rest : List Token} {fuel : Nat}

/-! ## Types of operands -/

/-- Reads whether an operand is of a type, if it is asked. -/
def askInstance (fuel : Nat) (e : Expr) (tokens : List Token) : Except Fault (Reading Expr) := do
  match tokens with
  | .name "instance" :: .name "of" :: rest =>
    let (type, rest) ← valueType fuel rest
    return (.instanceOf e type, rest)
  | _ => return (e, tokens)

/-- Reads as what type an operand is treated, and what is asked then. -/
def askTreat (fuel : Nat) (e : Expr) (tokens : List Token) : Except Fault (Reading Expr) := do
  let (e, rest) ← match tokens with
    | .name "treat" :: .name "as" :: rest => do
      let (type, rest) ← valueType fuel rest
      pure (Expr.treat e type, rest)
    | _ => pure (e, tokens)
  askInstance fuel e rest

/-- Reads whether an operand can be cast, and what is asked then. -/
def askCastable (fuel : Nat) (e : Expr) (tokens : List Token) : Except Fault (Reading Expr) := do
  let (e, rest) ← match tokens with
    | .name "castable" :: .name "as" :: rest => do
      let ((type, emptyToo), rest) ← castType rest
      pure (Expr.castable e type emptyToo, rest)
    | _ => pure (e, tokens)
  askTreat fuel e rest

/-- Reads to what type an operand is cast, and what is asked then. -/
def askCast (fuel : Nat) (e : Expr) (tokens : List Token) : Except Fault (Reading Expr) := do
  let (e, rest) ← match tokens with
    | .name "cast" :: .name "as" :: rest => do
      let ((type, emptyToo), rest) ← castType rest
      pure (Expr.cast e type emptyToo, rest)
    | _ => pure (e, tokens)
  askCastable fuel e rest

theorem typed_succ (fuel : Nat) (tokens : List Token) : typed (fuel + 1) tokens = (do
    let (e, rest) ← unary fuel tokens
    let (e, rest) ← arrows fuel e rest
    askCast fuel e rest) :=
  rfl

theorem reads_askInstance (fuel : Nat) (e : Expr) (tokens : List Token) :
    ReadsOn (askInstance fuel e tokens) tokens := by
  rw [askInstance.eq_def]
  split
  · refine .andThen ((readsTypes fuel).valueType _) fun ⟨type, rest⟩ htype => .pure ?_
    intro hrest
    exact behind_of_goesOn rfl (htype hrest.sound)
  · exact readsOn_ok e

theorem reads_askTreat (fuel : Nat) (e : Expr) (tokens : List Token) :
    ReadsOn (askTreat fuel e tokens) tokens := by
  rw [askTreat.eq_def]
  dsimp only
  split
  · refine .andThen ((readsTypes fuel).valueType _) fun ⟨type, rest⟩ htype => .pureThen ?_
    refine (reads_askInstance fuel _ rest).mono fun r hr hrest => ?_
    exact behind_of_goesOn rfl (htype (hr hrest).sound)
  · exact .pureThen (reads_askInstance fuel e tokens)

theorem reads_askCastable (fuel : Nat) (e : Expr) (tokens : List Token) :
    ReadsOn (askCastable fuel e tokens) tokens := by
  rw [askCastable.eq_def]
  dsimp only
  split
  · refine .andThen (reads_castType _) fun ⟨type, rest⟩ htype => .pureThen ?_
    refine (reads_askTreat fuel _ rest).mono fun r hr hrest => ?_
    exact behind_of_goesOn rfl (htype (hr hrest).sound)
  · exact .pureThen (reads_askTreat fuel e tokens)

theorem reads_askCast (fuel : Nat) (e : Expr) (tokens : List Token) :
    ReadsOn (askCast fuel e tokens) tokens := by
  rw [askCast.eq_def]
  dsimp only
  split
  · refine .andThen (reads_castType _) fun ⟨type, rest⟩ htype => .pureThen ?_
    refine (reads_askCastable fuel _ rest).mono fun r hr hrest => ?_
    exact behind_of_goesOn rfl (htype (hr hrest).sound)
  · exact .pureThen (reads_askCastable fuel e tokens)

/-! ## All readers -/

/-- What the readers of expressions do, for an amount of fuel. -/
structure Reads (fuel : Nat) : Prop where
  expr : ∀ tokens, ReadsOperand (expr fuel tokens) tokens
  members : ∀ tokens, ReadsOn (members fuel tokens) tokens
  single : ∀ tokens, ReadsOperand (single fuel tokens) tokens
  binding : ∀ binder {middle last : Token} tokens, (∀ rest, mayPrecede middle rest = true) →
    goesOn last = true → ReadsOperand (binding fuel binder middle last tokens) tokens
  binary : ∀ least tokens, ReadsOperand (binary fuel least tokens) tokens
  climb : ∀ least most left tokens, ReadsOn (climb fuel least most left tokens) tokens
  typed : ∀ tokens, ReadsOperand (typed fuel tokens) tokens
  arrows : ∀ first tokens, ReadsOn (arrows fuel first tokens) tokens
  unary : ∀ tokens, ReadsOperand (unary fuel tokens) tokens
  maps : ∀ left tokens, ReadsOn (maps fuel left tokens) tokens
  path : ∀ tokens, ReadsOperand (path fuel tokens) tokens
  steps : ∀ left tokens, ReadsOn (steps fuel left tokens) tokens
  step : ∀ tokens, ReadsOperand (step fuel tokens) tokens
  postfixes : ∀ base tokens, ReadsOn (postfixes fuel base tokens) tokens
  predicates : ∀ tokens, ReadsOn (predicates fuel tokens) tokens
  lookupKey : ∀ tokens, ReadsPart (lookupKey fuel tokens) tokens
  enclosed : ∀ {close : Token} tokens, goesOn close = true →
    ReadsPart (enclosed fuel close tokens) tokens
  arguments : ∀ tokens, ReadsPart (arguments fuel tokens) tokens
  moreArguments : ∀ tokens, ReadsPart (moreArguments fuel tokens) tokens
  argument : ∀ tokens, ReadsOperand (argument fuel tokens) tokens
  entries : ∀ tokens, ReadsPart (entries fuel tokens) tokens
  primary : ∀ tokens, ReadsOperand (primary fuel tokens) tokens

variable (h : Reads fuel)

include h

/-! ## Members and bindings -/

theorem reads_expr_succ (tokens : List Token) : ReadsOperand (expr (fuel + 1) tokens) tokens := by
  rw [expr.eq_def]
  refine .andThen (h.single tokens) fun ⟨first, rest⟩ hfirst => ?_
  dsimp only
  split
  · refine .andThen (h.members _) fun ⟨more, rest⟩ hmore => .pure ?_
    intro hrest
    exact hfirst (hmore hrest)
  · exact .pure hfirst

theorem reads_members_succ (tokens : List Token) :
    ReadsOn (members (fuel + 1) tokens) tokens := by
  rw [members.eq_def]
  dsimp only
  split
  · refine .andThen (h.single _) fun ⟨first, rest⟩ hfirst => ?_
    refine .andThen (h.members rest) fun ⟨more, rest⟩ hmore => .pure ?_
    intro hrest
    exact behind_of_goesOn rfl (hfirst (hmore hrest))
  · exact readsOn_ok _

theorem reads_binding_succ (binder : Binder) {middle last : Token} (tokens : List Token)
    (hmiddle : ∀ rest, mayPrecede middle rest = true) (hlast : goesOn last = true) :
    ReadsOperand (binding (fuel + 1) binder middle last tokens) tokens := by
  rw [binding.eq_def]
  dsimp only
  refine .andThen (reads_qualifiedName "" tokens) fun ⟨name, rest⟩ hname => ?_
  refine .andThen (sound_expect hmiddle) fun rest hfound => ?_
  refine .andThen (h.single rest) fun ⟨source, rest⟩ hsource => ?_
  have hbefore : Behind rest → Sound tokens := fun hrest => hname (hfound (hsource hrest))
  dsimp only
  split
  · refine .andThen (h.binding binder _ hmiddle hlast) fun ⟨body, rest⟩ hbody => .pure ?_
    intro hrest
    exact hbefore (behind_of_goesOn rfl (hbody hrest))
  · refine .andThen (behind_expect hlast) fun rest hfound => ?_
    refine .andThen (h.single rest) fun ⟨body, rest⟩ hbody => .pure ?_
    intro hrest
    exact hbefore (hfound (hbody hrest))

omit h in
/-- The words of bindings. -/
theorem binder?_cases {binder : Binder} {middle last : Token}
    (hword : binder? t = some (binder, middle, last)) :
    (∀ rest, mayPrecede t rest = true) ∧ (∀ rest, mayPrecede middle rest = true) ∧
      goesOn last = true := by
  rw [binder?.eq_def] at hword
  split at hword <;> cases hword <;> exact ⟨fun _ => rfl, fun _ => rfl, rfl⟩

theorem reads_single_succ (tokens : List Token) :
    ReadsOperand (single (fuel + 1) tokens) tokens := by
  rw [single.eq_def]
  dsimp only
  split
  · refine .andThen (h.expr _) fun ⟨condition, rest⟩ hcondition => ?_
    refine .andThen (behind_expect rfl) fun rest hclose => ?_
    refine .andThen (behind_expect rfl) fun rest hthen => ?_
    refine .andThen (h.single rest) fun ⟨yes, rest⟩ hyes => ?_
    refine .andThen (behind_expect rfl) fun rest helse => ?_
    refine .andThen (h.single rest) fun ⟨no, rest⟩ hno => .pure ?_
    intro hrest
    have hbranches : Behind _ := hthen (hyes (helse (hno hrest)))
    exact hcondition (hclose hbranches.sound)
  · split
    · rename_i hword
      obtain ⟨ht, hmiddle, hlast⟩ := binder?_cases hword
      refine (h.binding _ _ hmiddle hlast).mono fun r hr hrest => ?_
      exact sound_cons_iff.2 ⟨ht _, hr hrest⟩
    · exact h.binary 1 _
  · exact h.binary 1 tokens

/-! ## Operators -/

theorem reads_binary_succ (least : Nat) (tokens : List Token) :
    ReadsOperand (binary (fuel + 1) least tokens) tokens := by
  rw [binary.eq_def]
  refine .andThen (h.typed tokens) fun ⟨left, rest⟩ hleft => ?_
  refine (h.climb least 9 left rest).mono fun r hr hrest => ?_
  exact hleft (hr hrest)

theorem reads_climb_succ (least most : Nat) (left : Expr) (tokens : List Token) :
    ReadsOn (climb (fuel + 1) least most left tokens) tokens := by
  rw [climb.eq_def]
  dsimp only
  split
  · exact readsOn_ok _
  · split
    · rename_i hop
      split
      · refine .andThen (h.binary _ _) fun ⟨right, rest⟩ hright => ?_
        refine (h.climb _ _ _ rest).mono fun r hr hrest => ?_
        exact behind_of_goesOn (goesOn_of_operator hop) (hright (hr hrest))
      · exact readsOn_ok _
    · exact readsOn_ok _

theorem reads_typed_succ (tokens : List Token) :
    ReadsOperand (typed (fuel + 1) tokens) tokens := by
  rw [typed_succ]
  refine .andThen (h.unary tokens) fun ⟨operand, rest⟩ hoperand => ?_
  refine .andThen (h.arrows operand rest) fun ⟨e, rest⟩ harrows => ?_
  refine (reads_askCast fuel e rest).mono fun r hr hrest => ?_
  exact hoperand (harrows (hr hrest))

/-- A function behind an arrow, its further arguments, and more arrows. -/
theorem reads_arrowTo {α : Type} {x : Except Fault (Reading α)} (hx : ReadsPart x tokens)
    (make : α → List Expr → Expr) :
    ReadsOperand (do
      let (function, rest) ← x
      let (more, rest) ← arguments fuel (← expect .openParen rest)
      arrows fuel (make function more) rest) tokens := by
  refine .andThen hx fun ⟨function, rest⟩ hfunction => ?_
  refine .andThen (behind_expect rfl) fun rest hopen => ?_
  refine .andThen (h.arguments rest) fun ⟨more, rest⟩ hmore => ?_
  refine (h.arrows _ rest).mono fun r hr hrest => ?_
  exact hfunction (hopen (hmore (hr hrest).sound)).sound

theorem reads_arrows_succ (first : Expr) (tokens : List Token) :
    ReadsOn (arrows (fuel + 1) first tokens) tokens := by
  rw [arrows.eq_def]
  dsimp only
  split
  · exact (reads_arrowTo h (reads_qualifiedName "" _) fun name more =>
      .apply (.variable name) (first :: more)).mono fun r hr hrest =>
        behind_of_goesOn rfl (hr hrest)
  · exact (reads_arrowTo h (h.enclosed _ rfl) fun function more =>
      .apply (.sequence function) (first :: more)).mono fun r hr hrest =>
        behind_of_goesOn rfl (hr hrest)
  · exact (reads_arrowTo h (reads_functionName _) fun name more =>
      .call name (first :: more)).mono fun r hr hrest => behind_of_goesOn rfl (hr hrest)
  · exact readsOn_ok _

/-! ## Paths -/

theorem reads_unary_succ (tokens : List Token) :
    ReadsOperand (unary (fuel + 1) tokens) tokens := by
  rw [unary.eq_def]
  dsimp only
  split
  · exact .andThen (h.unary _) fun _ hoperand => .pure hoperand
  · exact .andThen (h.unary _) fun _ hoperand => .pure hoperand
  · refine .andThen (h.path tokens) fun ⟨left, rest⟩ hleft => ?_
    exact (h.maps left rest).mono fun r hr hrest => hleft (hr hrest)

theorem reads_maps_succ (left : Expr) (tokens : List Token) :
    ReadsOn (maps (fuel + 1) left tokens) tokens := by
  rw [maps.eq_def]
  dsimp only
  split
  · refine .andThen (h.path _) fun ⟨right, rest⟩ hright => ?_
    refine (h.maps _ rest).mono fun r hr hrest => ?_
    exact behind_of_goesOn rfl (hright (hr hrest))
  · exact readsOn_ok _

/-- A step and those behind it. -/
theorem reads_stepAndMore (make : Expr → Expr) (tokens : List Token) :
    ReadsOperand (do
      let (first, rest) ← step fuel tokens
      steps fuel (make first) rest) tokens := by
  refine .andThen (h.step tokens) fun ⟨first, rest⟩ hfirst => ?_
  exact (h.steps _ rest).mono fun r hr hrest => hfirst (hr hrest)

theorem reads_path_succ (tokens : List Token) : ReadsOperand (path (fuel + 1) tokens) tokens := by
  rw [path.eq_def]
  dsimp only
  split
  · split
    · exact reads_stepAndMore h _ _
    · exact .ok Behind.sound
  · split
    · exact reads_stepAndMore h _ _
    · exact .ok Behind.sound
  · exact reads_stepAndMore h id tokens

theorem reads_steps_succ (left : Expr) (tokens : List Token) :
    ReadsOn (steps (fuel + 1) left tokens) tokens := by
  rw [steps.eq_def]
  dsimp only
  split
  · exact (reads_stepAndMore h _ _).mono fun r hr hrest => behind_of_goesOn rfl (hr hrest)
  · exact (reads_stepAndMore h _ _).mono fun r hr hrest => behind_of_goesOn rfl (hr hrest)
  · exact readsOn_ok _

/-- A step along an axis. -/
theorem reads_along (axis : Axis) (tokens : List Token) :
    ReadsOperand (do
      let (test, rest) ← nodeTest tokens
      let (predicates, rest) ← predicates fuel rest
      return (Expr.step axis test predicates, rest)) tokens := by
  refine .andThen (reads_nodeTest tokens) fun ⟨test, rest⟩ htest => ?_
  refine .andThen (h.predicates rest) fun ⟨predicates, rest⟩ hpredicates => .pure ?_
  intro hrest
  exact htest (hpredicates hrest).sound

/-- A value, and what belongs to it. -/
theorem reads_value (tokens : List Token) :
    ReadsOperand (do
      let (base, rest) ← primary fuel tokens
      postfixes fuel base rest) tokens := by
  refine .andThen (h.primary tokens) fun ⟨base, rest⟩ hbase => ?_
  exact (h.postfixes base rest).mono fun r hr hrest => hbase (hr hrest)

theorem reads_step_succ (tokens : List Token) : ReadsOperand (step (fuel + 1) tokens) tokens := by
  rw [step.eq_def]
  dsimp only
  split
  · refine .andThen (h.predicates _) fun ⟨predicates, rest⟩ hpredicates => .pure ?_
    intro hrest
    exact (hpredicates hrest).sound
  · exact reads_along h _ _
  · split
    · exact reads_along h _ _
    · exact .error _
  · split
    · exact reads_along h _ _
    · exact reads_value h _
  · split
    · exact reads_value h _
    · exact reads_along h _ _
  all_goals first | exact reads_value h _ | exact reads_along h _ _

theorem reads_postfixes_succ (base : Expr) (tokens : List Token) :
    ReadsOn (postfixes (fuel + 1) base tokens) tokens := by
  rw [postfixes.eq_def]
  dsimp only
  split
  · refine .andThen (h.predicates _) fun ⟨predicates, rest⟩ hpredicates => ?_
    exact (h.postfixes _ rest).mono fun r hr hrest => hpredicates (hr hrest)
  · refine .andThen (h.arguments _) fun ⟨arguments, rest⟩ harguments => ?_
    refine (h.postfixes _ rest).mono fun r hr hrest => ?_
    exact behind_of_goesOn rfl (harguments (hr hrest).sound)
  · refine .andThen (h.lookupKey _) fun ⟨key, rest⟩ hkey => ?_
    refine (h.postfixes _ rest).mono fun r hr hrest => ?_
    exact behind_of_goesOn rfl (hkey (hr hrest).sound)
  · exact readsOn_ok _

theorem reads_predicates_succ (tokens : List Token) :
    ReadsOn (predicates (fuel + 1) tokens) tokens := by
  rw [predicates.eq_def]
  dsimp only
  split
  · refine .andThen (h.expr _) fun ⟨first, rest⟩ hfirst => ?_
    refine .andThen (behind_expect rfl) fun rest hclose => ?_
    refine .andThen (h.predicates rest) fun ⟨more, rest⟩ hmore => .pure ?_
    intro hrest
    have hpredicate : Sound _ := hfirst (hclose (hmore hrest).sound)
    exact behind_of_goesOn rfl hpredicate
  · exact readsOn_ok _

/-! ## Lists -/

theorem reads_lookupKey_succ (tokens : List Token) :
    ReadsPart (lookupKey (fuel + 1) tokens) tokens := by
  rw [lookupKey.eq_def]
  dsimp only
  split
  · exact .ok id
  · exact .ok id
  · exact .ok id
  · exact .andThen (h.enclosed _ rfl) fun _ hparts => .pure hparts
  · exact .error _

theorem reads_enclosed_succ {close : Token} (tokens : List Token) (hclose : goesOn close = true) :
    ReadsPart (enclosed (fuel + 1) close tokens) tokens := by
  rw [enclosed.eq_def]
  dsimp only
  split
  · rename_i hhead
    obtain ⟨rest, rfl⟩ : ∃ rest, tokens = close :: rest := by
      cases tokens with
      | nil => cases hhead
      | cons t rest => exact ⟨rest, by rw [Option.some.inj hhead]⟩
    exact .ok fun hrest => (behind_of_goesOn hclose hrest).sound
  · refine .andThen (h.single tokens) fun ⟨first, rest⟩ hfirst => ?_
    refine .andThen (h.members rest) fun ⟨more, rest⟩ hmore => ?_
    exact reads_closed hclose (fun hrest => hfirst (hmore hrest)) _

/-- An argument, and what is behind it. -/
theorem reads_argumentAndMore (tokens : List Token) :
    ReadsPart (do
      let (first, rest) ← argument fuel tokens
      match rest with
      | .comma :: rest =>
        let (more, rest) ← moreArguments fuel rest
        return (first :: more, rest)
      | _ => return ([first], ← expect .closeParen rest)) tokens := by
  refine .andThen (h.argument tokens) fun ⟨first, rest⟩ hfirst => ?_
  dsimp only
  split
  · refine .andThen (h.moreArguments _) fun ⟨more, rest⟩ hmore => .pure ?_
    intro hrest
    exact hfirst (behind_of_goesOn rfl (hmore hrest))
  · exact reads_closed rfl hfirst _

theorem reads_arguments_succ (tokens : List Token) :
    ReadsPart (arguments (fuel + 1) tokens) tokens := by
  rw [arguments.eq_def]
  dsimp only
  split
  · exact .ok id
  · exact reads_argumentAndMore h tokens

theorem reads_moreArguments_succ (tokens : List Token) :
    ReadsPart (moreArguments (fuel + 1) tokens) tokens := by
  rw [moreArguments.eq_def]
  exact reads_argumentAndMore h tokens

theorem reads_argument_succ (tokens : List Token) :
    ReadsOperand (argument (fuel + 1) tokens) tokens := by
  rw [argument.eq_def]
  dsimp only
  split
  · exact .ok Behind.sound
  · exact .ok Behind.sound
  · exact h.single tokens

theorem reads_entries_succ (tokens : List Token) :
    ReadsPart (entries (fuel + 1) tokens) tokens := by
  rw [entries.eq_def]
  dsimp only
  split
  · exact .ok id
  · refine .andThen (h.single tokens) fun ⟨key, rest⟩ hkey => ?_
    refine .andThen (behind_expect rfl) fun rest hcolon => ?_
    refine .andThen (h.single rest) fun ⟨value, rest⟩ hvalue => ?_
    have hentry : Behind rest → Sound tokens := fun hrest => hkey (hcolon (hvalue hrest))
    dsimp only
    split
    · exact .throw _
    · refine .andThen (h.entries _) fun ⟨more, rest⟩ hmore => .pure ?_
      intro hrest
      exact hentry (behind_of_goesOn rfl (hmore hrest))
    · exact reads_closed rfl hentry _

/-! ## Values -/

theorem reads_primary_succ (tokens : List Token) :
    ReadsOperand (primary (fuel + 1) tokens) tokens := by
  rw [primary.eq_def]
  dsimp only
  split
  · exact .ok Behind.sound
  · exact .ok Behind.sound
  · exact .ok Behind.sound
  · exact .ok (sound_string _)
  · exact .ok Behind.sound
  · refine ReadsPart.operand ?_
    exact .andThen (reads_qualifiedName "" _) fun _ hname => .pure hname
  · refine ReadsPart.operand ?_
    exact .andThen (h.enclosed _ rfl) fun _ hparts => .pure hparts
  · refine ReadsPart.operand ?_
    exact .andThen (h.enclosed _ rfl) fun _ hparts => .pure hparts
  · refine ReadsPart.operand ?_
    exact .andThen (h.lookupKey _) fun _ hkey => .pure hkey
  · refine ReadsPart.operand ?_
    exact .andThen (h.entries _) fun _ hentries => .pure hentries
  · refine ReadsPart.operand ?_
    exact .andThen (h.enclosed _ rfl) fun _ hparts => .pure hparts
  · refine ReadsPart.operand ?_
    refine .andThen (reads_parameters fuel _) fun ⟨parameters, rest⟩ hparameters => ?_
    refine .andThen (reads_typeOrAny fuel rest) fun ⟨result, rest⟩ hresult => ?_
    refine .andThen (sound_expect fun _ => rfl) fun rest hopen => ?_
    refine .andThen (h.enclosed rest rfl) fun ⟨body, rest⟩ hbody => .pure ?_
    intro hrest
    exact hparameters (hresult (hopen (hbody hrest)))
  · refine ReadsPart.operand ?_
    refine .andThen (reads_functionName tokens) fun ⟨name, rest⟩ hname => ?_
    dsimp only
    split
    · exact .pure hname
    · exact .andThen (h.arguments _) fun _ harguments => .pure fun hrest => hname (harguments hrest)
    · exact .throw _

omit h

/-! ## Expressions -/

theorem reads (fuel : Nat) : Reads fuel := by
  induction fuel with
  | zero =>
    constructor <;> intros <;> exact .error _
  | succ fuel ih =>
    exact {
      expr := reads_expr_succ ih
      members := reads_members_succ ih
      single := reads_single_succ ih
      binding := reads_binding_succ ih
      binary := reads_binary_succ ih
      climb := reads_climb_succ ih
      typed := reads_typed_succ ih
      arrows := reads_arrows_succ ih
      unary := reads_unary_succ ih
      maps := reads_maps_succ ih
      path := reads_path_succ ih
      steps := reads_steps_succ ih
      step := reads_step_succ ih
      postfixes := reads_postfixes_succ ih
      predicates := reads_predicates_succ ih
      lookupKey := reads_lookupKey_succ ih
      enclosed := reads_enclosed_succ ih
      arguments := reads_arguments_succ ih
      moreArguments := reads_moreArguments_succ ih
      argument := reads_argument_succ ih
      entries := reads_entries_succ ih
      primary := reads_primary_succ ih }

/-- **The tokens of an expression are sound.** -/
theorem sound_of_parse {text : String} {e : Expr} (h : parse text = .ok e) :
    Sound (Lexer.lex text) := by
  rw [parse] at h
  have hread := (reads (16 * (Lexer.lex text).length + 16)).expr (Lexer.lex text)
  cases hexpr : expr (16 * (Lexer.lex text).length + 16) (Lexer.lex text) with
  | error f =>
    simp only [hexpr] at h
    cases h
  | ok r =>
    simp only [hexpr, bind, Except.bind] at h
    split at h
    · rename_i hempty
      refine hread r hexpr ?_
      rw [List.isEmpty_iff.1 hempty]
      exact behind_nil
    · cases h

end MarkupQuery.XPath
