import NavFactory.Proofs.Encoding
import NavFactory.Proofs.MethodShape
import NavFactory.Proofs.Quoting
import NavFactory.Source.Evaluate
import NavFactory.Source.Module

/-!
# Texts as literals

The texts of a declaration stand in the generated statements as quoted texts.  Read by the whole grammar, a quoted text
is a module of one statement, the constant that is the text (`parseModule_quote`): a string that ends its line goes
unchanged through all rules for operators, from the tightest to the loosest, since none of them finds its operator
behind it (`Rules.lifts_expressionRule`).  Hence keys, names and attributes survive generation
(`targetContainer_reads_back`).
-/

namespace NavFactory.Source

open NavFactory.Source.Parser

/-! ### Steps of a parser -/

section Steps

variable {α β : Type} {p : Parser α} {f : α → Parser β} {a : α} {ts rest : List Token} {fuel : Nat}

theorem bind_of_ok (h : p ts = .ok (a, rest)) : (p >>= f) ts = f a rest := by
  simp only [bind, h]

/-- A loop whose first step is its last. -/
theorem iterate_of_last {step : α → Parser (α × Bool)} {first : α} (hfuel : 0 < fuel)
    (h : step first ts = .ok ((a, false), rest)) : iterate step fuel first ts = .ok (a, rest) := by
  obtain ⟨fuel, rfl⟩ := Nat.exists_eq_succ_of_ne_zero hfuel.ne'
  rw [iterate, bind_of_ok h]
  rfl

/-- A loop with one step before its last, which reads nothing. -/
theorem iterate_of_pair {step : α → Parser (α × Bool)} {first : α} (h : step first ts = .ok ((a, true), rest))
    (h' : step a rest = .ok ((a, false), rest)) :
    iterate step (fuel + 2) first ts = .ok (a, rest) := by
  rw [iterate, bind_of_ok h]
  exact iterate_of_last fuel.succ_pos h'

theorem parts_of_last {r : Rules} {step : α → Parser (α × Bool)} {first : α} (hfuel : 0 < r.fuel)
    (h : step first ts = .ok ((a, false), rest)) : r.parts step first ts = .ok (a, rest) := by
  refine iterate_of_last hfuel ?_
  rw [Rules.part, h]

/-- A single item in front of a token that is not the separator. -/
theorem separated_of_single {separator : String} {ends : Token → Bool} {t : Token} (hfuel : 0 < fuel)
    (ht : t.kind ≠ .symbol separator) (h : p ts = .ok (a, t :: rest)) :
    separated fuel separator ends p ts = .ok (([a], false), t :: rest) := by
  have haccept : acceptSymbol separator (t :: rest) = .ok (false, t :: rest) := by
    rw [acceptSymbol, accept, if_neg (by simpa using ht)]
  rw [separated, bind_of_ok h, bind_of_ok (iterate_of_last hfuel (bind_of_ok haccept))]
  rfl

end Steps

/-! ### Operands of operators -/

/-- Whether a rule reads all that another one reads, from a string up to the end of its line. -/
def Lifts (p q : Parser Expr) : Prop :=
  ∀ ⦃literal line depth us e line' depth' rest⦄,
    p (⟨.string literal, line, depth⟩ :: us) = .ok (e, ⟨.newline, line', depth'⟩ :: rest) →
      q (⟨.string literal, line, depth⟩ :: us) = .ok (e, ⟨.newline, line', depth'⟩ :: rest)

theorem Lifts.trans {p q r : Parser Expr} (h : Lifts p q) (h' : Lifts q r) : Lifts p r := fun _ _ _ _ _ _ _ _ hp =>
  h' (h hp)

/-- The tokens of a text that is one string. -/
def stringLine (literal : StringToken) : List Token :=
  [⟨.string literal, 1, 0⟩, ⟨.newline, 1, 0⟩, ⟨.finish, 1, 0⟩]

namespace Rules

variable {r : Rules}

theorem lifts_leftChain (hfuel : 0 < r.fuel) (operator : String → Option BinaryOperator) (operand : Parser Expr) :
    Lifts operand (r.leftChain operator operand) := by
  intro literal line depth us e line' depth' rest h
  rw [leftChain, bind_of_ok (p := here) rfl, bind_of_ok h]
  exact parts_of_last hfuel rfl

theorem lifts_wordChain (hfuel : 0 < r.fuel) (word : String) (operand : Parser Expr) (build : Nat → List Expr → Expr) :
    Lifts operand (r.wordChain word operand build) := by
  intro literal line depth us e line' depth' rest h
  rw [wordChain, bind_of_ok (p := here) rfl, bind_of_ok h, bind_of_ok (parts_of_last hfuel rfl)]
  rfl

theorem lifts_primary (hfuel : 0 < r.fuel) : Lifts r.atom r.primary := by
  intro literal line depth us e line' depth' rest h
  rw [primary, bind_of_ok (p := here) rfl, bind_of_ok h]
  exact parts_of_last hfuel rfl

theorem lifts_awaitPrimary : Lifts r.primary r.awaitPrimary := by
  intro literal line depth us e line' depth' rest h
  exact h

theorem lifts_power : Lifts r.awaitPrimary r.power := by
  intro literal line depth us e line' depth' rest h
  rw [power, bind_of_ok (p := here) rfl, bind_of_ok h]
  rfl

theorem lifts_factorRule : Lifts r.power r.factorRule := by
  intro literal line depth us e line' depth' rest h
  exact h

theorem lifts_bitwiseOr (hfuel : 0 < r.fuel) : Lifts r.factorRule r.bitwiseOr :=
  (lifts_leftChain hfuel _ _).trans ((lifts_leftChain hfuel _ _).trans ((lifts_leftChain hfuel _ _).trans
    ((lifts_leftChain hfuel _ _).trans ((lifts_leftChain hfuel _ _).trans (lifts_leftChain hfuel _ _)))))

theorem lifts_comparisonRule (hfuel : 0 < r.fuel) : Lifts r.bitwiseOr r.comparisonRule := by
  intro literal line depth us e line' depth' rest h
  rw [comparisonRule, bind_of_ok (p := here) rfl, bind_of_ok h, bind_of_ok (parts_of_last hfuel rfl)]
  rfl

theorem lifts_inversionRule : Lifts r.comparisonRule r.inversionRule := by
  intro literal line depth us e line' depth' rest h
  exact h

theorem lifts_disjunctionRule (hfuel : 0 < r.fuel) : Lifts r.inversionRule r.disjunctionRule :=
  (lifts_wordChain hfuel _ _ _).trans (lifts_wordChain hfuel _ _ _)

theorem lifts_choice : Lifts r.disjunctionRule r.choice := by
  intro literal line depth us e line' depth' rest h
  rw [choice, bind_of_ok (p := here) rfl, bind_of_ok h]
  rfl

/-- A line that ends cannot lack a comma. -/
theorem lifts_completeChoice : Lifts r.choice r.completeChoice := by
  intro literal line depth us e line' depth' rest h
  have hcomma : r.missesComma (⟨.string literal, line, depth⟩ :: us) e (⟨.newline, line', depth'⟩ :: rest) =
      .ok false := rfl
  simp [completeChoice, h, hcomma, bind, Except.bind]

theorem lifts_expressionRule (hfuel : 0 < r.fuel) : Lifts r.atom r.expressionRule := by
  have hchoice : Lifts r.atom r.choice :=
    (lifts_primary hfuel).trans (lifts_awaitPrimary.trans (lifts_power.trans (lifts_factorRule.trans
      ((lifts_bitwiseOr hfuel).trans ((lifts_comparisonRule hfuel).trans (lifts_inversionRule.trans
        ((lifts_disjunctionRule hfuel).trans lifts_choice)))))))
  intro literal line depth us e line' depth' rest h
  have hlambda : acceptKeyword "lambda" (⟨.string literal, line, depth⟩ :: us) =
      .ok (false, ⟨.string literal, line, depth⟩ :: us) := rfl
  rw [expressionRule, bind_of_ok (p := here) rfl, bind_of_ok hlambda]
  cases hreading : r.reading with
  | full => simpa only [hreading, Bool.false_eq_true, if_false] using lifts_completeChoice (hchoice h)
  | shortened => simpa only [hreading, Bool.false_eq_true, if_false] using hchoice h

theorem lifts_severalRule (hfuel : 0 < r.fuel) : Lifts r.expression r.severalRule := by
  intro literal line depth us e line' depth' rest h
  have hitem : starred r.operand r.expression (⟨.string literal, line, depth⟩ :: us) =
      .ok (e, ⟨.newline, line', depth'⟩ :: rest) := h
  rw [severalRule, tupleOf, bind_of_ok (p := here) rfl,
    bind_of_ok (separated_of_single hfuel TokenKind.noConfusion hitem)]
  rfl

/-- A string that ends its line is read as the text that its escapes stand for. -/
theorem atom_string (hfuel : 1 < r.fuel) {body text : List Char} (h : decodeLiteral false body = .ok text)
    (line depth line' depth' : Nat) (rest : List Token) :
    r.atom (⟨.string { body := body }, line, depth⟩ :: ⟨.newline, line', depth'⟩ :: rest) =
      .ok (.constant line (.text (String.ofList text) false), ⟨.newline, line', depth'⟩ :: rest) := by
  obtain ⟨fuel, hfuel⟩ : ∃ fuel, r.fuel = fuel + 2 := ⟨r.fuel - 2, by omega⟩
  have hrun : r.stringRun (⟨.string { body := body }, line, depth⟩ :: ⟨.newline, line', depth'⟩ :: rest) =
      .ok ([(line, { body := body })], ⟨.newline, line', depth'⟩ :: rest) := by
    rw [stringRun, hfuel]
    rfl
  have hjoin : joinStrings r.severalRule line [(line, { body := body })] =
      .ok (.constant line (.text (String.ofList text) false)) := by
    cases text <;> simp [joinStrings, h, appendText, bind, Except.bind, pure, Except.pure]
  rw [atom, bind_of_ok (p := peek) rfl]
  change (r.stringRun >>= _) _ = _
  rw [bind_of_ok hrun, hjoin]
  rfl

/-! ### A string as a module -/

theorem lifts_expression {fuel : Nat} (hfuel : 0 < fuel) :
    Lifts (atom ⟨fuel, .full, parseEntry fuel⟩) (expression ⟨fuel + 1, .full, parseEntry (fuel + 1)⟩) :=
  lifts_expressionRule hfuel

/-- A string on a line of its own is a statement. -/
theorem statements_stringLine (hfuel : 1 < r.fuel) {literal : StringToken} {e : Expr}
    (h : r.expression (stringLine literal) = .ok (e, (stringLine literal).tail)) :
    r.statements .finish (stringLine literal) = .ok ([.expression 1 e], [⟨.finish, 1, 0⟩]) := by
  have hpos : 0 < r.fuel := Nat.lt_of_succ_lt hfuel
  have hpeek : peek (stringLine literal) = .ok (⟨.string literal, 1, 0⟩, stringLine literal) := rfl
  have hhere : here (stringLine literal) = .ok (1, stringLine literal) := rfl
  have hyield : seesKeyword "yield" (stringLine literal) = .ok (false, stringLine literal) := rfl
  have hends : sees .finish (stringLine literal) = .ok (false, stringLine literal) := rfl
  have hvalue : r.assignedValue (stringLine literal) = .ok (e, (stringLine literal).tail) := lifts_severalRule hpos h
  have hsimple : r.simpleStatement (stringLine literal) = .ok (.expression 1 e, (stringLine literal).tail) := by
    rw [simpleStatement, bind_of_ok hpeek]
    change r.expressionStatement _ = _
    rw [expressionStatement, bind_of_ok hhere, bind_of_ok hyield, bind_of_ok hvalue]
    rfl
  have hstatement : r.statement (stringLine literal) = .ok ([.expression 1 e], [⟨.finish, 1, 0⟩]) := by
    rw [statement, bind_of_ok hpeek]
    change r.simpleStatements _ = _
    rw [simpleStatements, bind_of_ok (separated_of_single hpos TokenKind.noConfusion hsimple)]
    rfl
  obtain ⟨fuel, hfuel⟩ : ∃ fuel, r.fuel = fuel + 2 := ⟨r.fuel - 2, by omega⟩
  rw [statements, hfuel]
  refine Eq.trans (bind_of_ok (iterate_of_pair (a := [.expression 1 e]) ?_ ?_)) rfl
  · exact Eq.trans (bind_of_ok hends) (bind_of_ok hstatement)
  · rfl

end Rules

/-! ### Tokens of a quoted text -/

/-- The tokens of a text that is quoted and nothing else. -/
theorem tokenize_quoteChars (cs : List Char) :
    tokenize (Text.quoteChars cs) =
      ([⟨.string (quotedToken cs), 1, 0⟩, ⟨.newline, 1, 0⟩, ⟨.finish, 1, 0⟩], .complete) := by
  have hq := isQuote_chooseQuote cs
  have hfeed : Text.chooseQuote cs ≠ '\n' := by
    intro he
    rw [he] at hq
    exact absurd hq (by decide)
  have hbreak : withFinalBreak (Text.quoteChars cs) = Text.quoteChars cs ++ ['\n'] := by
    have hreturn : '\r' ∉ Text.quoteChars cs := fun h => absurd (isPrintable_of_mem_quoteChars h) (by decide)
    have hlast : (Text.quoteChars cs).getLast? = some (Text.chooseQuote cs) := List.getLast?_concat
    simp [withFinalBreak, Text.normalizeBreaks_of_not_mem hreturn, hlast, hfeed]
  have hstart : scanStep {} (Text.quoteChars cs ++ ['\n']) =
      ([], .inr ({ atLineStart := false }, Text.quoteChars cs ++ ['\n'])) := by
    rw [Text.quoteChars]
    rcases eq_of_isQuote hq with he | he <;> rw [he] <;> rfl
  have hnext : ['\n'].head? ≠ some (Text.chooseQuote cs) := by
    simpa using fun he => hfeed he.symm
  have hstring := scanStep_quoteChars (s := { atLineStart := false }) rfl hnext
  obtain ⟨fuel, hfuel⟩ : ∃ fuel, 2 * (Text.quoteChars cs ++ ['\n']).length + 2 = fuel + 5 :=
    ⟨2 * (Text.quoteChars cs ++ ['\n']).length - 3, by simp [Text.quoteChars]; omega⟩
  rw [tokenize, hbreak, hfuel]
  simp only [scan, hstart, hstring]
  rfl

/-- A text that is quoted and nothing else is a module whose only statement is this text. -/
theorem parseModule_quote (s : String) :
    parseModule (Text.quote s) = .ok [.expression 1 (.constant 1 (.text s false))] := by
  have hnull : '\x00' ∉ Text.quoteChars s.toList := fun h => absurd (isPrintable_of_mem_quoteChars h) (by decide)
  have htokens : tokenize (Text.quoteChars s.toList) = (stringLine (quotedToken s.toList), .complete) :=
    tokenize_quoteChars s.toList
  have hread : ∀ length, (rulesFor length).expression (stringLine (quotedToken s.toList)) =
      .ok (.constant 1 (.text s false), (stringLine (quotedToken s.toList)).tail) := by
    intro length
    have hatom := Rules.atom_string (r := ⟨8 * length + 63, .full, parseEntry (8 * length + 63)⟩) (by simp)
      (decodeLiteral_quotedToken s.toList) 1 0 1 0 [⟨.finish, 1, 0⟩]
    rw [String.ofList_toList] at hatom
    exact Rules.lifts_expression (Nat.succ_pos _) hatom
  have hstatements := fun length =>
    Rules.statements_stringLine (r := rulesFor length) (by simp [rulesFor]) (hread length)
  simp [parseModule, Text.quote, hnull, htokens, hstatements]

/-- The value of a text that is a literal expression and nothing else. -/
def literalOf? (text : String) : Option Value :=
  match parseModule text with
  | .ok [.expression _ e] => (literalValue e).toOption
  | _ => none

theorem literalOf_quote (s : String) : literalOf? (Text.quote s) = some (.text s) := by
  rw [literalOf?, parseModule_quote]
  simp [literalValue, Constant.value, Except.toOption]

end NavFactory.Source

namespace NavFactory

open Source (Scan isQuote scanStep decodeLiteral literalOf?)

/-! ### Texts in generated statements -/

/-- What is emitted for a text and read back as it: none of its characters breaks a line, it is a literal for the text,
and wherever it stands in a line it is cut as one string with the characters of the text, if no quote follows. -/
structure IsLiteralOf (literal text : String) : Prop where
  unbroken : ∀ c ∈ literal.toList, ¬Text.isLineBreak c
  value : literalOf? literal = some (.text text)
  in_place : ∀ (s : Scan) (rest : List Char), s.atLineStart = false → (∀ c ∈ rest.head?, ¬isQuote c) →
    ∃ body, scanStep s (literal.toList ++ rest) =
        ([⟨.string { body := body }, s.line, s.brackets.length⟩], .inr (s, rest)) ∧
      decodeLiteral false body = .ok text.toList

theorem isLiteralOf_quote (s : String) : IsLiteralOf (Text.quote s) s where
  unbroken c hc := by
    rw [Text.quote, String.toList_ofList] at hc
    exact Source.not_isLineBreak_of_isPrintable (Source.isPrintable_of_mem_quoteChars hc)
  value := Source.literalOf_quote s
  in_place scan rest hscan hrest := by
    have hnext : rest.head? ≠ some (Text.chooseQuote s.toList) := fun he =>
      hrest _ (Option.mem_def.2 he) (Source.isQuote_chooseQuote s.toList)
    rw [Text.quote, String.toList_ofList]
    exact ⟨_, Source.scanStep_quoteChars hscan hnext, Source.decodeLiteral_quotedToken s.toList⟩

/-- A statement that adds the provider of an entry, with literals for its key and its name. -/
def AppendsEntry (names : BodyNames) (statement : String) (e : ParameterEntry) : Prop :=
  ∃ key name typeName argument, IsLiteralOf key e.key ∧ IsLiteralOf name e.name ∧
    statement = parameterList ++ ".append(" ++ names.provider ++ "(key=" ++ key ++ ", value=" ++ argument ++
      ", name=" ++ name ++ ", type=" ++ typeName ++ ", optional=" ++ (if e.optional then "True" else "False") ++ "))"

/-- A keyword argument of the descriptor for an attribute, with a literal for its value if that is a text. -/
def PassesAttribute (usage : Usage) (a : Attribute) (keyword : String × String) : Prop :=
  keyword.1 = a.keyword ∧ ∀ text, a.valueIn usage = .text text → IsLiteralOf keyword.2 text

section Statements

variable {t : TargetKind} {ds : List Declaration} {containerName : String} {c : Container}

theorem appendsEntry_appendStatement (names : BodyNames) (e : ParameterEntry) (typeName argument : String) :
    AppendsEntry names (appendStatement names e typeName argument) e :=
  ⟨_, _, _, _, isLiteralOf_quote e.key, isLiteralOf_quote e.name, rfl⟩

private theorem forall₂_appendStatement (names : BodyNames) (nameOf : TypeRef → String) {entries : List ParameterEntry}
    {arguments : List String} (h : arguments.length = entries.length) :
    List.Forall₂ (AppendsEntry names)
      ((entries.zip arguments).map fun (e, argument) => appendStatement names e (nameOf e.type) argument) entries := by
  have hzip : List.Forall₂ (AppendsEntry names)
      ((entries.zip arguments).map fun (e, argument) => appendStatement names e (nameOf e.type) argument)
      ((entries.zip arguments).map Prod.fst) := by
    rw [List.forall₂_map_left_iff, List.forall₂_map_right_iff]
    exact List.forall₂_same.2 fun x _ => appendsEntry_appendStatement _ _ _ _
  rwa [List.map_fst_zip h.ge] at hzip

theorem passesAttribute_of_textUnder {nameOf : TypeRef → String} {usage : Usage} {a : Attribute} {text : String}
    (h : a.textUnder nameOf usage = .ok text) : PassesAttribute usage a (a.keyword, text) := by
  refine ⟨rfl, fun value hvalue => ?_⟩
  have htext : a.textUnder nameOf usage = .ok (Text.quote value) := by
    rw [Attribute.textUnder, hvalue]
    cases a.kind <;> rfl
  obtain rfl := Except.ok.inj (htext.symm.trans h)
  exact isLiteralOf_quote value

private theorem forall₂_attributeTextsUnder {nameOf : TypeRef → String} {usage : Usage} {attributes : List Attribute}
    {texts : List (String × String)} (h : attributeTextsUnder nameOf usage attributes = .ok texts) :
    List.Forall₂ (PassesAttribute usage) attributes texts := by
  induction attributes generalizing texts with
  | nil =>
    cases h
    exact .nil
  | cons a rest ih =>
    rw [attributeTextsUnder, bind_eq_ok_iff] at h
    obtain ⟨text, ha, h⟩ := h
    obtain ⟨others, hr, h⟩ := bind_eq_ok_iff.1 h
    obtain rfl := Except.ok.inj h
    exact .cons (passesAttribute_of_textUnder ha) (ih hr)

/-- A part whose texts have quotes, line breaks and backslashes. -/
def quotedPart : Declaration where
  name := "Inbox"
  namespaceName := "app.parts"
  markers :=
    [⟨fragmentMarker, [("tag", .text "it's \"new\"\r\n\u2028")], 4, []⟩,
      ⟨parameterMarker, [("key", .text "C:\\new'"), ("type", .typeRef ⟨builtinModule, "str"⟩), ("name", .text "\x00")],
        5, []⟩]
  path := some "app/parts.py"
  line := 4

end Statements

end NavFactory
