import Mathlib.Data.List.Basic

/-!
# Shell patterns

Unix shell patterns as the `glob` crate parses and matches them (`Pattern::new`,
`Pattern::matches_with`), case-sensitive, with `/` as the only separator. The two
`MatchOptions` say whether a separator must be matched by a literal `/` (glob(3) with
`FNM_PATHNAME`) and whether a leading `.` must be; `Pattern::matches` uses neither.
-/

namespace Glob

inductive CharSpecifier where
  | singleChar (c : Char)
  | charRange (lo hi : Char)
deriving DecidableEq, Repr

inductive PatternToken where
  | char (c : Char)
  | anyChar
  | anySequence
  | anyRecursiveSequence
  | anyWithin (specs : List CharSpecifier)
  | anyExcept (specs : List CharSpecifier)
deriving DecidableEq, Repr

structure MatchOptions where
  requireLiteralSeparator : Bool
  requireLiteralLeadingDot : Bool
deriving DecidableEq, Repr

/-- `MatchOptions::new()`, what `Pattern::matches` uses. -/
def MatchOptions.new : MatchOptions := ⟨false, false⟩

/-- glob(3) with `FNM_PATHNAME`: wildcards never match a `/`. -/
def MatchOptions.pathname : MatchOptions := ⟨true, false⟩

@[simp] theorem MatchOptions.new_requireLiteralSeparator :
    MatchOptions.new.requireLiteralSeparator = false := rfl
@[simp] theorem MatchOptions.new_requireLiteralLeadingDot :
    MatchOptions.new.requireLiteralLeadingDot = false := rfl
@[simp] theorem MatchOptions.pathname_requireLiteralSeparator :
    MatchOptions.pathname.requireLiteralSeparator = true := rfl
@[simp] theorem MatchOptions.pathname_requireLiteralLeadingDot :
    MatchOptions.pathname.requireLiteralLeadingDot = false := rfl

inductive MatchResult where
  | matched
  | subPatternDoesntMatch
  | entirePatternDoesntMatch
deriving DecidableEq, Repr

def isSeparator (c : Char) : Bool := c == '/'

def inCharSpecifiers (specs : List CharSpecifier) (c : Char) : Bool :=
  specs.any fun
    | .singleChar sc => c == sc
    | .charRange lo hi => lo ≤ c && c ≤ hi

/-! ## Parsing -/

/-- `parse_char_specifiers`: `a-b` is a range, anything else a single character. -/
def parseCharSpecifiers : List Char → List CharSpecifier
  | a :: '-' :: b :: rest => .charRange a b :: parseCharSpecifiers rest
  | a :: rest => .singleChar a :: parseCharSpecifiers rest
  | [] => []

/-- A bracket expression after its `[`: the specifiers up to the first `]` that is not the
first character, and what follows the `]`. -/
def splitBracket (first : Char) (rest : List Char) : Option (List Char × List Char) :=
  match rest.idxOf? ']' with
  | some j => some (first :: rest.take j, rest.drop (j + 1))
  | none => none

theorem splitBracket_length {first : Char} {rest specs after : List Char}
    (h : splitBracket first rest = some (specs, after)) : after.length < rest.length + 1 := by
  unfold splitBracket at h
  split at h
  · simp only [Option.some.injEq, Prod.mk.injEq] at h
    obtain ⟨-, rfl⟩ := h
    simp only [List.length_drop]
    omega
  · cases h

/-- The main loop of `Pattern::new`, with the tokens so far (last first) and the character
before the current position. -/
def parseTokens (acc : List PatternToken) (prev : Option Char) :
    List Char → Option (List PatternToken)
  | [] => some acc.reverse
  | '?' :: rest => parseTokens (.anyChar :: acc) (some '?') rest
  | '*' :: rest =>
      let count := 1 + (rest.takeWhile (· == '*')).length
      if count > 2 then none
      else if count = 2 then
        -- `**` only as a whole path component; a `/` after it is taken with it
        if prev.all isSeparator then
          let push := !(acc.length > 1 && acc.head? == some .anyRecursiveSequence)
          let acc := if push then .anyRecursiveSequence :: acc else acc
          match _hafter : rest.dropWhile (· == '*') with
          | [] => some acc.reverse
          | c :: after =>
              if isSeparator c then parseTokens acc (some c) after else none
        else none
      else parseTokens (.anySequence :: acc) (some '*') (rest.dropWhile (· == '*'))
  | '[' :: '!' :: c :: d :: rest =>
      match h : splitBracket c (d :: rest) with
      | some (specs, after) =>
          have := splitBracket_length h
          parseTokens (.anyExcept (parseCharSpecifiers specs) :: acc) (some ']') after
      | none => none
  | '[' :: c :: d :: rest =>
      if c = '!' then none
      else
        match h : splitBracket c (d :: rest) with
        | some (specs, after) =>
            have := splitBracket_length h
            parseTokens (.anyWithin (parseCharSpecifiers specs) :: acc) (some ']') after
        | none => none
  | '[' :: _ => none
  | c :: rest => parseTokens (.char c :: acc) (some c) rest
termination_by cs => cs.length
decreasing_by
  all_goals simp_wf
  all_goals (try simp only [List.length_cons] at *)
  all_goals first
    | omega
    | (have hsuffix := (@List.dropWhile_suffix _ rest (· == '*')).length_le
       rw [_hafter, List.length_cons] at hsuffix
       omega)
    | (have hlen := (@List.dropWhile_suffix _ rest (· == '*')).length_le; omega)

/-- `Pattern::new`; `none` for a `PatternError`. -/
def Pattern.new (p : String) : Option (List PatternToken) := parseTokens [] none p.toList

/-- A pattern text without `?`, `*` or `[`. -/
def Literal (p : List Char) : Prop := ∀ c ∈ p, c ≠ '?' ∧ c ≠ '*' ∧ c ≠ '['

theorem parseTokens_literal_star (acc : List PatternToken) (prev : Option Char) (p : List Char)
    (hp : Literal p) :
    parseTokens acc prev (p ++ ['*']) = some (acc.reverse ++ p.map .char ++ [.anySequence]) := by
  induction p generalizing acc prev with
  | nil =>
      rw [List.nil_append, parseTokens]
      simp [parseTokens]
  | cons c p ih =>
      obtain ⟨h1, h2, h3⟩ := hp c (by simp)
      -- `c` is none of the characters the other branches of the parser start with
      rw [List.cons_append, parseTokens]
      · rw [ih _ _ (fun d hd => hp d (by simp [hd]))]
        simp
      all_goals simp_all

theorem Pattern.new_literal_star {p : String} (hp : Literal p.toList) :
    Pattern.new (p ++ "*") = some (p.toList.map .char ++ [.anySequence]) := by
  have hstar : "*".toList = ['*'] := rfl
  unfold Pattern.new
  rw [String.toList_append, hstar, parseTokens_literal_star [] none _ hp]
  rfl

/-! ## Matching -/

section
variable (options : MatchOptions)

/-- The loop of `matches_from` for `*` and `**`, after the empty match failed: consume one
more character and try the rest of the pattern `rest` after it. Once the file is used up the
remaining tokens are tried on nothing. -/
def sequenceLoop (rest : Bool → List Char → MatchResult) (recursive : Bool) :
    Bool → List Char → MatchResult
  | follows, [] => rest follows []
  | follows, c :: cs =>
      if follows && options.requireLiteralLeadingDot && c == '.' then .subPatternDoesntMatch
      else
        let follows := isSeparator c
        if recursive && !follows then sequenceLoop rest recursive follows cs
        else if !recursive && options.requireLiteralSeparator && follows then
          .subPatternDoesntMatch
        else
          match rest follows cs with
          | .subPatternDoesntMatch => sequenceLoop rest recursive follows cs
          | m => m

/-- The arms of `matches_from` for a token other than `*` and `**`: whether it takes the
character `c`, `follows` telling whether the previous character was a separator. -/
def takesChar (tok : PatternToken) (follows : Bool) (c : Char) : Bool :=
  let sep := isSeparator c
  match tok with
  | .char c' => c == c'
  | .anyChar => !(options.requireLiteralSeparator && sep) &&
      !(follows && options.requireLiteralLeadingDot && c == '.')
  | .anyWithin specs => !(options.requireLiteralSeparator && sep) &&
      !(follows && options.requireLiteralLeadingDot && c == '.') && inCharSpecifiers specs c
  | .anyExcept specs => !(options.requireLiteralSeparator && sep) &&
      !(follows && options.requireLiteralLeadingDot && c == '.') && !inCharSpecifiers specs c
  | _ => false

/-- `matches_from`: the tokens against the rest of the file, `follows` telling whether the
previous character was a separator. -/
def matchesFrom : List PatternToken → Bool → List Char → MatchResult
  | [], _, file => if file.isEmpty then .matched else .subPatternDoesntMatch
  | .anySequence :: ts, follows, file =>
      match matchesFrom ts follows file with
      | .subPatternDoesntMatch => sequenceLoop options (matchesFrom ts) false follows file
      | m => m
  | .anyRecursiveSequence :: ts, follows, file =>
      match matchesFrom ts follows file with
      | .subPatternDoesntMatch => sequenceLoop options (matchesFrom ts) true follows file
      | m => m
  | _ :: _, _, [] => .entirePatternDoesntMatch
  | tok :: ts, follows, c :: cs =>
      if takesChar options tok follows c then matchesFrom ts (isSeparator c) cs
      else .subPatternDoesntMatch

/-- `Pattern::matches_with`. -/
def matchesWith (tokens : List PatternToken) (s : String) : Bool :=
  matchesFrom options tokens true s.toList == .matched

theorem sequenceLoop_nil (rest : Bool → List Char → MatchResult) (recursive follows : Bool) :
    sequenceLoop options rest recursive follows [] = rest follows [] := rfl

theorem sequenceLoop_cons (rest : Bool → List Char → MatchResult) (recursive follows : Bool)
    (c : Char) (cs : List Char) :
    sequenceLoop options rest recursive follows (c :: cs) =
      if follows && options.requireLiteralLeadingDot && c == '.' then .subPatternDoesntMatch
      else if recursive && !isSeparator c then sequenceLoop options rest recursive (isSeparator c) cs
      else if !recursive && options.requireLiteralSeparator && isSeparator c then
        .subPatternDoesntMatch
      else
        match rest (isSeparator c) cs with
        | .subPatternDoesntMatch => sequenceLoop options rest recursive (isSeparator c) cs
        | m => m := rfl

theorem matchesFrom_nil (follows : Bool) (file : List Char) :
    matchesFrom options [] follows file =
      if file.isEmpty then .matched else .subPatternDoesntMatch := rfl

end

/-- `Pattern::matches`. -/
def patternMatches (tokens : List PatternToken) (s : String) : Bool := matchesWith .new tokens s

/-! ## Wildcards across separators -/

theorem matchesFrom_char_cons (options : MatchOptions) (c : Char) (ts : List PatternToken)
    (follows : Bool) (cs : List Char) :
    matchesFrom options (.char c :: ts) follows (c :: cs) =
      matchesFrom options ts (isSeparator c) cs := by
  have htakes : takesChar options (.char c) follows c = true := beq_self_eq_true c
  change (if takesChar options (.char c) follows c then matchesFrom options ts (isSeparator c) cs
    else .subPatternDoesntMatch) = _
  rw [if_pos htakes]

/-- Literal characters match themselves. -/
theorem matchesFrom_literal (options : MatchOptions) (p : List Char) (ts : List PatternToken)
    (follows : Bool) (cs : List Char) :
    matchesFrom options (p.map .char ++ ts) follows (p ++ cs) =
      matchesFrom options ts (p.foldl (fun _ c => isSeparator c) follows) cs := by
  induction p generalizing follows with
  | nil => rfl
  | cons c p ih =>
      rw [List.map_cons, List.cons_append, List.cons_append, matchesFrom_char_cons, ih]
      rfl

theorem sequenceLoop_new_nil (follows : Bool) (cs : List Char) :
    sequenceLoop .new (matchesFrom .new []) false follows cs = .matched := by
  induction cs generalizing follows with
  | nil => rfl
  | cons c cs ih =>
      -- each character is taken by the `*`; the empty rest of the pattern then matches
      -- exactly when the file is used up
      cases cs with
      | nil => simp [sequenceLoop_cons, matchesFrom_nil]
      | cons d cs =>
          have hrest : matchesFrom .new [] (isSeparator c) (d :: cs) = .subPatternDoesntMatch :=
            rfl
          rw [sequenceLoop_cons]
          simp only [MatchOptions.new_requireLiteralLeadingDot,
            MatchOptions.new_requireLiteralSeparator, Bool.and_false, Bool.false_and,
            Bool.false_eq_true, if_false, hrest]
          exact ih (isSeparator c)

/-- Without `require_literal_separator`, a trailing `*` matches everything, `/` included. -/
theorem matchesFrom_new_anySequence (follows : Bool) (cs : List Char) :
    matchesFrom .new [.anySequence] follows cs = .matched := by
  cases cs with
  | nil => rfl
  | cons c cs =>
      change (match matchesFrom .new [] follows (c :: cs) with
        | .subPatternDoesntMatch => sequenceLoop .new (matchesFrom .new []) false follows (c :: cs)
        | m => m) = .matched
      rw [matchesFrom_nil, List.isEmpty_cons, if_neg Bool.false_ne_true]
      exact sequenceLoop_new_nil follows (c :: cs)

theorem sequenceLoop_pathname_nil (follows : Bool) (cs : List Char) :
    sequenceLoop .pathname (matchesFrom .pathname []) false follows cs = .matched ↔
      '/' ∉ cs := by
  induction cs generalizing follows with
  | nil => simp [sequenceLoop_nil, matchesFrom_nil]
  | cons c cs ih =>
      rw [sequenceLoop_cons]
      by_cases hc : c = '/'
      · -- a separator stops the `*` under `FNM_PATHNAME`
        subst hc
        simp [isSeparator]
      · have hsep : isSeparator c = false := by simp [isSeparator, hc]
        cases cs with
        | nil => simp [hsep, matchesFrom_nil, Ne.symm hc]
        | cons d cs =>
            have hrest : matchesFrom .pathname [] false (d :: cs) = .subPatternDoesntMatch :=
              rfl
            simp only [MatchOptions.pathname_requireLiteralLeadingDot,
              MatchOptions.pathname_requireLiteralSeparator, Bool.and_false, Bool.false_and,
              Bool.false_eq_true, if_false, hsep, Bool.not_false, Bool.and_true, hrest]
            rw [ih false, List.mem_cons]
            simp [Ne.symm hc]

/-- Under `FNM_PATHNAME` a trailing `*` matches exactly the rests without a `/`. -/
theorem matchesFrom_pathname_anySequence (follows : Bool) (cs : List Char) :
    matchesFrom .pathname [.anySequence] follows cs = .matched ↔ '/' ∉ cs := by
  cases cs with
  | nil => exact iff_of_true rfl (by simp)
  | cons c cs =>
      change (match matchesFrom .pathname [] follows (c :: cs) with
        | .subPatternDoesntMatch => sequenceLoop .pathname (matchesFrom .pathname []) false follows (c :: cs)
        | m => m) = .matched ↔ _
      rw [matchesFrom_nil, List.isEmpty_cons, if_neg Bool.false_ne_true]
      exact sequenceLoop_pathname_nil follows (c :: cs)

/-- A pattern `p*` with `p` free of wildcards admits every path that starts with `p`. -/
theorem patternMatches_literal_star (p s : String) :
    patternMatches (p.toList.map .char ++ [.anySequence]) (p ++ s) = true := by
  unfold patternMatches matchesWith
  rw [String.toList_append, matchesFrom_literal, matchesFrom_new_anySequence]
  rfl

/-- Under glob(3) rules the same pattern admits only the paths one component deeper. -/
theorem matchesWith_pathname_literal_star (p s : String) :
    matchesWith .pathname (p.toList.map .char ++ [.anySequence]) (p ++ s) = true ↔
      '/' ∉ s.toList := by
  unfold matchesWith
  rw [String.toList_append, matchesFrom_literal, beq_iff_eq, matchesFrom_pathname_anySequence]

end Glob
