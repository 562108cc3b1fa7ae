/-
ClusterBackup.Proofs.FileTree.Glob — what texts write as patterns.

A text without wildcards is a pattern for itself. A pattern that is
written with wildcards fixes fewer characters than it is written in, so it
leaves one character of a name of that length open (`exists_open`): if it
stands for the name that writes it, it stands for another one as well
(`exists_other`).

`Writes` is the language of patterns. It is read off the reader once
(`writes_of_readTokens`); what patterns are like is then by induction on it.
-/
import ClusterBackup.FileTree.Glob
import ClusterBackup.Proofs.FileTree.Paths

namespace ClusterBackup.Glob

/-! ## Texts without wildcards -/

/-- The characters that can write something other than themselves. -/
def isWildcard (c : Char) : Bool := c == '?' || c == '*' || c == '['

/-- Nothing in the text can be taken for a wildcard. -/
def Plain (cs : List Char) : Prop := ∀ c ∈ cs, isWildcard c = false

instance (cs : List Char) : Decidable (Plain cs) :=
  List.decidableBAll (fun c => isWildcard c = false) cs

theorem readTokens_cons {c : Char} (plain : isWildcard c = false) (position : Nat)
    (before : Option Char) (rest : List Char) :
    readTokens position before (c :: rest) =
      (readTokens (position + 1) (some c) rest).map (.char c :: ·) := by
  simp only [isWildcard, Bool.or_eq_false_iff, beq_eq_false_iff_ne, ne_eq] at plain
  obtain ⟨⟨question, star⟩, bracket⟩ := plain
  rw [readTokens.eq_def]
  dsimp only
  rw [if_neg question, if_neg star, if_neg bracket]
  rfl

/-- Characters that are no wildcards are read as themselves, whatever follows them. -/
theorem readTokens_append {cs rest : List Char} {ts : List Token} (plain : Plain cs)
    (read : ∀ position before, readTokens position before rest = .ok ts) (position : Nat)
    (before : Option Char) :
    readTokens position before (cs ++ rest) = .ok (cs.map .char ++ ts) := by
  induction cs generalizing position before with
  | nil => exact read position before
  | cons c cs ih =>
    obtain ⟨first, plain⟩ := List.forall_mem_cons.mp plain
    rw [List.cons_append, readTokens_cons first, ih plain]
    rfl

theorem readTokens_nil (position : Nat) (before : Option Char) :
    readTokens position before [] = .ok [] := by
  rw [readTokens]

theorem readTokens_star (position : Nat) (before : Option Char) :
    readTokens position before ['*'] = .ok [.anyText] := by
  rw [readTokens.eq_def]
  dsimp only
  rw [if_neg (by decide), if_pos rfl, readTokens_nil]
  rfl

/-- A text without wildcards is a pattern for itself. -/
theorem readTokens_of_plain {cs : List Char} (plain : Plain cs) (position : Nat)
    (before : Option Char) : readTokens position before cs = .ok (cs.map .char) := by
  simpa using readTokens_append plain readTokens_nil position before

theorem mapM_readTokens_of_plain {parts : List (List Char)} (plain : ∀ cs ∈ parts, Plain cs) :
    parts.mapM (readTokens 0 none) = .ok (parts.map fun cs => cs.map .char) := by
  induction parts with
  | nil => rfl
  | cons cs parts ih =>
    obtain ⟨first, others⟩ := List.forall_mem_cons.mp plain
    rw [List.mapM_cons, readTokens_of_plain first, ih others]
    rfl

theorem literal?_of_plain (cs : List Char) : literal? (cs.map .char) = some (String.ofList cs) := by
  have each : (cs.map Token.char).mapM Token.literal? = some cs := by
    induction cs with
    | nil => rfl
    | cons c cs ih => simp [List.mapM_cons, ih, Token.literal?]
  rw [literal?, each, Option.map_some]

/-! ## Comparing names

One equation for each kind of token, for names with and without a first character. -/

theorem matchesName_nil (cs : List Char) : matchesName [] cs = cs.isEmpty := by
  rw [matchesName]

/-- A token for any number of characters. -/
abbrev Token.IsText (t : Token) : Prop := t = .anyText ∨ t = .anyDepth

theorem matchesName_text_nil {t : Token} (text : t.IsText) (ts : List Token) :
    matchesName (t :: ts) [] = matchesName ts [] := by
  rw [matchesName, if_pos text, Bool.or_false]

theorem matchesName_text_cons {t : Token} (text : t.IsText) (ts : List Token) (c : Char)
    (cs : List Char) :
    matchesName (t :: ts) (c :: cs) = (matchesName ts (c :: cs) || matchesName (t :: ts) cs) := by
  rw [matchesName, if_pos text]

theorem matchesName_single_nil {t : Token} (single : ¬ t.IsText) (ts : List Token) :
    matchesName (t :: ts) [] = false := by
  rw [matchesName, if_neg single]

theorem matchesName_single_cons {t : Token} (single : ¬ t.IsText) (ts : List Token) (c : Char)
    (cs : List Char) :
    matchesName (t :: ts) (c :: cs) = (t.matchesChar c && matchesName ts cs) := by
  rw [matchesName, if_neg single]

theorem matchesName_text (cs : List Char) {t : Token} (text : t.IsText) :
    matchesName [t] cs = true := by
  induction cs with
  | nil => rw [matchesName_text_nil text, matchesName_nil, List.isEmpty_nil]
  | cons c cs ih => rw [matchesName_text_cons text, ih, Bool.or_true]

/-- A star behind characters stands for what starts with them. -/
theorem matchesName_concat_anyText (front cs : List Char) :
    matchesName (front.map .char ++ [.anyText]) cs = true ↔ front <+: cs := by
  induction front generalizing cs with
  | nil => simp [matchesName_text cs (.inl rfl)]
  | cons c front ih =>
    rw [List.map_cons, List.cons_append]
    cases cs with
    | nil => simp [matchesName_single_nil (t := .char c) (by simp)]
    | cons d cs =>
      rw [matchesName_single_cons (by simp), Bool.and_eq_true, ih, List.cons_prefix_cons,
        Token.matchesChar, beq_iff_eq, eq_comm]

/-! ## The language of patterns -/

/-- The characters that write the tokens. -/
inductive Writes : List Char → List Token → Prop where
  | nil : Writes [] []
  | char {c : Char} {cs : List Char} {ts : List Token} (plain : isWildcard c = false) :
      Writes cs ts → Writes (c :: cs) (.char c :: ts)
  | anyChar {cs : List Char} {ts : List Token} : Writes cs ts → Writes ('?' :: cs) (.anyChar :: ts)
  | anyText {cs : List Char} {ts : List Token} : Writes cs ts → Writes ('*' :: cs) (.anyText :: ts)
  | set {cs rest : List Char} {ts : List Token} {t : Token} (read : readSet? cs = some (t, rest)) :
      Writes rest ts → Writes ('[' :: cs) (t :: ts)
  | anyDepth : Writes ['*', '*'] [.anyDepth]
  | depthBefore {cs : List Char} {ts : List Token} :
      Writes cs ts → Writes ('*' :: '*' :: '/' :: cs) (.anyDepth :: ts)

theorem map_eq_ok {read : Except Fault (List Token)} {t : Token} {ts : List Token}
    (same : (do return t :: (← read)) = .ok ts) : ∃ more, read = .ok more ∧ ts = t :: more := by
  cases read with
  | error fault => cases same
  | ok more => exact ⟨more, rfl, (Except.ok.inj same).symm⟩

/-- What is read is written there. -/
theorem writes_of_readTokens {position : Nat} {before : Option Char} {cs : List Char}
    {ts : List Token} (read : readTokens position before cs = .ok ts) : Writes cs ts := by
  -- A branch that reads nothing ends in a fault; every other one is a constructor.
  fun_induction readTokens position before cs generalizing ts with
  | case1 =>
    cases read
    exact .nil
  | case2 position before rest ih =>
    obtain ⟨more, behind, rfl⟩ := map_eq_ok read
    exact .anyChar (ih behind)
  | case3 => cases read
  | case4 =>
    cases read
    exact .anyDepth
  | case5 position before start rest _ _ ih =>
    obtain ⟨more, behind, rfl⟩ := map_eq_ok read
    exact .depthBefore (ih behind)
  | case6 => cases read
  | case7 => cases read
  | case8 position before rest _ _ _ ih =>
    obtain ⟨more, behind, rfl⟩ := map_eq_ok read
    exact .anyText (ih behind)
  | case9 position before rest set after found =>
    rename_i ih
    obtain ⟨more, behind, rfl⟩ := map_eq_ok read
    exact .set found (ih behind)
  | case10 => cases read
  | case11 position before c rest question star bracket ih =>
    obtain ⟨more, behind, rfl⟩ := map_eq_ok read
    exact .char (by simp [isWildcard, question, star, bracket]) (ih behind)

/-! ## Names with wildcards -/

theorem literal?_eq_none_iff {p : Part} : literal? p = none ↔ ∃ t ∈ p, t.literal? = none := by
  rw [literal?, Option.map_eq_none_iff]
  induction p with
  | nil => simp
  | cons t ts ih =>
    cases first : t.literal? with
    | none => simp [List.mapM_cons, first]
    | some c =>
      cases others : ts.mapM Token.literal? with
      | none => simpa [List.mapM_cons, first, others] using ih.mp others
      | some cs => simpa [List.mapM_cons, first, others] using ih

theorem readSet?_literal? {cs rest : List Char} {t : Token} (read : readSet? cs = some (t, rest)) :
    t.literal? = none := by
  simp only [readSet?] at read
  split at read
  · cases read
  · split at read
    · cases read
    · cases read
      rfl

/-- A text with wildcards is not read as itself. -/
theorem Writes.literal?_eq_none {cs : List Char} {ts : List Token} (writes : Writes cs ts)
    (wild : ¬ Plain cs) : literal? ts = none := by
  rw [literal?_eq_none_iff]
  induction writes with
  | nil => exact absurd (List.forall_mem_nil _) wild
  | char plain _ ih =>
    have behind : ¬ Plain _ := fun others => wild (List.forall_mem_cons.mpr ⟨plain, others⟩)
    obtain ⟨t, inside, token⟩ := ih behind
    exact ⟨t, List.mem_cons_of_mem _ inside, token⟩
  | set read _ _ => exact ⟨_, List.mem_cons_self, readSet?_literal? read⟩
  | _ => exact ⟨_, List.mem_cons_self, rfl⟩

/-- The token stands for one character, and not for every one. -/
def Token.isFixed : Token → Bool
  | char _ | oneOf _ _ => true
  | anyChar | anyText | anyDepth => false

/-- A pattern fixes no more characters than it is written in, and fewer if one is a wildcard. -/
theorem Writes.countP_isFixed {cs : List Char} {ts : List Token} (writes : Writes cs ts) :
    ts.countP Token.isFixed ≤ cs.length ∧ (¬ Plain cs → ts.countP Token.isFixed < cs.length) := by
  induction writes with
  | nil => exact ⟨Nat.le_refl 0, fun wild => absurd (List.forall_mem_nil _) wild⟩
  | char plain _ ih =>
    rw [List.countP_cons_of_pos rfl, List.length_cons]
    refine ⟨Nat.succ_le_succ ih.1, fun wild => Nat.succ_lt_succ (ih.2 fun others => ?_)⟩
    exact wild (List.forall_mem_cons.mpr ⟨plain, others⟩)
  | anyChar _ ih | anyText _ ih | depthBefore _ ih =>
    obtain ⟨few, -⟩ := ih
    simp only [List.length_cons]
    rw [List.countP_cons_of_neg (by decide)]
    exact ⟨by omega, fun _ => by omega⟩
  | @set cs rest ts t read _ ih =>
    have shorter : rest.length < cs.length := readSet?_length read
    have one : (t :: ts).countP Token.isFixed ≤ ts.countP Token.isFixed + 1 := by
      rw [List.countP_cons]
      split <;> omega
    rw [List.length_cons]
    omega
  | anyDepth => exact ⟨by decide, fun _ => by decide⟩

theorem matchesName_of_text {t : Token} (text : t.IsText) {ts : List Token} {cs : List Char}
    (matched : matchesName ts cs = true) : matchesName (t :: ts) cs = true := by
  cases cs with
  | nil => rw [matchesName_text_nil text, matched]
  | cons c cs => rw [matchesName_text_cons text, matched, Bool.true_or]

/-- **A pattern that fixes fewer characters than a name has leaves one of them open**, if it stands
for the name at all. -/
theorem exists_open {p : Part} {cs : List Char} (matched : matchesName p cs = true)
    (few : p.countP Token.isFixed < cs.length) :
    ∃ front c back, cs = front ++ c :: back ∧ ∀ d, matchesName p (front ++ d :: back) = true := by
  induction p generalizing cs with
  | nil =>
    rw [matchesName_nil, List.isEmpty_iff] at matched
    rw [matched] at few
    cases few
  | cons t ts ih =>
    cases cs with
    | nil => cases few
    | cons c cs =>
      by_cases text : t.IsText
      · have loose : t.isFixed = false := by rcases text with rfl | rfl <;> rfl
        rw [List.countP_cons_of_neg (by simp [loose])] at few
        rw [matchesName_text_cons text, Bool.or_eq_true] at matched
        rcases matched with others | again
        · obtain ⟨front, d, back, whole, free⟩ := ih others few
          exact ⟨front, d, back, whole, fun e => matchesName_of_text text (free e)⟩
        · -- The first character is one that the token takes in, whatever it is.
          refine ⟨[], c, cs, rfl, fun d => ?_⟩
          rw [List.nil_append, matchesName_text_cons text, again, Bool.or_true]
      · rw [matchesName_single_cons text, Bool.and_eq_true] at matched
        obtain ⟨first, others⟩ := matched
        by_cases any : t = .anyChar
        · refine ⟨[], c, cs, rfl, fun d => ?_⟩
          rw [List.nil_append, matchesName_single_cons text, others, any]
          rfl
        · have fixed : t.isFixed = true := by cases t <;> simp_all [Token.isFixed]
          rw [List.countP_cons_of_pos fixed] at few
          obtain ⟨front, d, back, rfl, free⟩ := ih others (Nat.lt_of_succ_lt_succ few)
          refine ⟨c :: front, d, back, rfl, fun e => ?_⟩
          rw [List.cons_append, matchesName_single_cons text, first, free e]
          rfl

/-- Of two letters one is not the character. -/
def letterUnlike (c : Char) : Char := if c = 'a' then 'b' else 'a'

theorem letterUnlike_ne (c : Char) : letterUnlike c ≠ c := by
  unfold letterUnlike
  split
  · next same =>
    rw [same]
    decide
  · next other => exact Ne.symm other

theorem letterUnlike_eq (c : Char) : letterUnlike c = 'a' ∨ letterUnlike c = 'b' := by
  unfold letterUnlike
  split
  · exact .inr rfl
  · exact .inl rfl

/-- A name stays one that entries can have if a letter takes the place of one of its characters. -/
theorem isName_of_letter {front back : List Char} {c d : Char} (letter : d = 'a' ∨ d = 'b')
    (proper : FileSystem.IsName (String.ofList (front ++ c :: back))) :
    FileSystem.IsName (String.ofList (front ++ d :: back)) := by
  have inside : d ∈ (String.ofList (front ++ d :: back)).toList := by simp
  have notDot : d ≠ '.' := by rcases letter with rfl | rfl <;> decide
  have ascii : d.utf8Size = 1 := by rcases letter with rfl | rfl <;> rfl
  -- A character of the new name is the letter or one of the old name.
  have old : ∀ e, e ≠ d → e ∉ (String.ofList (front ++ c :: back)).toList →
      e ∉ (String.ofList (front ++ d :: back)).toList := by
    intro e other absent
    simp only [String.toList_ofList, List.mem_append, List.mem_cons, not_or] at absent ⊢
    exact ⟨absent.1, other, absent.2.2⟩
  refine ⟨fun same => ?_, fun same => ?_, fun same => ?_, old _ ?_ proper.whole,
    old _ ?_ proper.notNul, ?_⟩
  · rw [same] at inside
    cases inside
  · rw [same] at inside
    exact notDot (by simpa using inside)
  · rw [same] at inside
    exact notDot (by simpa using inside)
  · rcases letter with rfl | rfl <;> decide
  · rcases letter with rfl | rfl <;> decide
  · have short := proper.short
    have size : 0 < c.utf8Size := c.utf8Size_pos
    simp only [String.ofList_append, String.ofList_cons, String.utf8ByteSize_append,
      String.utf8ByteSize_singleton] at short ⊢
    omega

/-- A name with wildcards is not the only one that it stands for as a pattern. -/
theorem exists_other {name : String} {p : Part} (proper : FileSystem.IsName name)
    (writes : Writes name.toList p) (wild : ¬ Plain name.toList)
    (matched : matchesName p name.toList = true) :
    ∃ other, FileSystem.IsName other ∧ other ≠ name ∧ matchesName p other.toList = true := by
  obtain ⟨front, c, back, whole, free⟩ := exists_open matched (writes.countP_isFixed.2 wild)
  have same : name = String.ofList (front ++ c :: back) := by rw [← whole, String.ofList_toList]
  refine ⟨String.ofList (front ++ letterUnlike c :: back),
    isName_of_letter (letterUnlike_eq c) (same ▸ proper), fun equal => ?_, ?_⟩
  · rw [same, String.ofList_inj, List.append_cancel_left_eq, List.cons.injEq] at equal
    exact letterUnlike_ne c equal.1
  · rw [String.toList_ofList]
    exact free _

/-! ## Patterns for paths -/

/-- A pattern for a path is read as a whole, and then part by part. -/
theorem parse?_eq_ok_iff {s : String} {absolute : Bool} {body : List Char} {g : Glob}
    (divided : FileSystem.Divided s.toList absolute body) :
    parse? s = .ok g ↔ (∃ ts, readTokens 0 none s.toList = .ok ts) ∧
      ∃ parts, (Text.splitWhere (· == '/') body).mapM (readTokens 0 none) = .ok parts ∧
        g = ⟨absolute, stepsOf parts⟩ := by
  have finished : ((Text.splitWhere (· == '/') body).mapM (readTokens 0 none) >>= fun parts =>
      pure ⟨absolute, stepsOf parts⟩) = Except.ok g ↔
      ∃ parts, (Text.splitWhere (· == '/') body).mapM (readTokens 0 none) = .ok parts ∧
        g = ⟨absolute, stepsOf parts⟩ := by
    cases each : (Text.splitWhere (· == '/') body).mapM (readTokens 0 none) with
    | error fault => exact ⟨nofun, nofun⟩
    | ok parts =>
      constructor
      · intro same
        exact ⟨parts, rfl, (Except.ok.inj same).symm⟩
      · rintro ⟨parts', same, rfl⟩
        cases same
        rfl
  rw [parse?]
  generalize s.toList = cs at divided
  cases whole : readTokens 0 none cs with
  | error fault => exact ⟨nofun, nofun⟩
  | ok ts =>
    rw [← finished, and_iff_right ⟨ts, rfl⟩]
    cases divided with
    | absolute body => rfl
    | relative first =>
      split
      next parted =>
        split at parted
        · exact absurd rfl (first '/' rfl)
        · cases parted
          rfl

/-- Parts that are not two stars are one step each. -/
theorem stepsOf_eq_map {ps : List Part} (near : ∀ p ∈ ps, p ≠ [.anyDepth]) :
    stepsOf ps = ps.map .entry := by
  induction ps with
  | nil => rfl
  | cons p ps ih =>
    obtain ⟨first, others⟩ := List.forall_mem_cons.mp near
    rw [stepsOf, if_neg first, ih others, List.map_cons]

variable {fs : FileSystem} {place dest : FileTree.Place}

theorem names_eq (fs : FileSystem) (g : Glob) :
    g.names fs = namesFrom fs g.steps (fs.start g.absolute) (!g.absolute) := by
  rw [names, FileSystem.start]
  cases g.absolute <;> rfl

/-- An empty part behind nothing but dots. -/
def stumblesOn : List (List Char) → Bool
  | [] => false
  | part :: parts => part == [] || (part == ['.'] && stumblesOn parts)

/-- Parts without wildcards lead where they lead as a path, but a relative path must not have an
empty part before it has left the place where it starts. -/
theorem namesFrom_literal {parts : List (List Char)} (last : Part) (atStart : Bool)
    (found : fs.follow place (parts.map String.ofList) = .ok dest) :
    namesFrom fs (parts.map (fun cs => .entry (cs.map .char)) ++ [.entry last]) place atStart =
      if atStart && stumblesOn parts then []
      else namesFrom fs [.entry last] dest (atStart && parts.all (· == ['.'])) := by
  induction parts generalizing place atStart with
  | nil =>
    rw [List.map_nil, FileSystem.follow, Except.ok.injEq] at found
    simp [stumblesOn, found]
  | cons part parts ih =>
    obtain ⟨next, step, rest⟩ := FileSystem.follow_cons_iff.mp found
    have empty : (String.ofList part = "") = (part = []) := by simp
    have dot : (String.ofList part == ".") = (part == ['.']) := by
      rw [Bool.eq_iff_iff, beq_iff_eq, beq_iff_eq, ← String.toList_inj, String.toList_ofList]
      rfl
    rw [List.map_cons, List.cons_append, namesFrom, namesAt, literal?_of_plain]
    dsimp only
    rw [List.flatMap_singleton, follow?, step]
    simp only [empty, dot]
    by_cases stumbles : part = [] ∧ atStart = true
    · rw [if_pos stumbles, stumblesOn, stumbles.1, stumbles.2]
      rfl
    · rw [if_neg stumbles]
      dsimp only [Except.toOption]
      rw [if_neg (by simp), ih _ rest, stumblesOn, List.all_cons]
      -- The parts behind this one are at the start only if this one is a dot.
      have onward : (atStart && (part == [] || part == ['.'] && stumblesOn parts)) =
          (atStart && part == ['.'] && stumblesOn parts) := by
        cases atStart with
        | false => rfl
        | true =>
          have solid : (part == []) = false := by simpa using stumbles
          rw [solid, Bool.false_or, Bool.true_and, Bool.true_and]
      rw [onward, Bool.and_assoc, Bool.and_assoc]

end ClusterBackup.Glob
