import SqlAccess.Proofs.Monitor.Scan

/-!
# Comments behind WITH

The scan after WITH knows no comments: it reads one like any other text. A comment whose quotes and
parentheses pair up therefore counts as one more word. It changes nothing where a word may stand
without meaning, and it hides the keyword behind a group at the top level, since only blanks may
stand between the two.
-/

namespace SqlAccess.QueryKind

open Text (isBlank dropBlanks)

/-- The body of a comment that leaves a reader outside where it is and shows it no keyword. -/
structure Quiet (depth : Int) (body : List Char) : Prop where
  returns : (Reader.outside depth).after body = .outside depth
  undecided : (Reader.outside depth).verdict (body ++ "*/".toList) = none

/-- A body without quotes and parentheses is quiet at every depth. -/
theorem quiet_of_isPlain {body : List Char} (h : ∀ c ∈ body, IsPlain c) (depth : Int) :
    Quiet depth body where
  returns := Reader.after_outside_of_isPlain h depth
  undecided := by
    have hend : ∀ c ∈ "*/".toList, IsPlain c := isPlain_of_all (by decide)
    rw [Reader.verdict_outside_of_isPlain h]
    exact Reader.verdict_outside_of_isPlain hend depth []

/-- A quiet comment has no part in the verdict on the text behind it: the star behind its body is no
part of a keyword and no blank. -/
theorem Quiet.verdict_comment {depth : Int} {body : List Char} (h : Quiet depth body)
    (rest : List Char) :
    (Reader.outside depth).verdict ("/*".toList ++ (body ++ ("*/ ".toList ++ rest))) =
      (Reader.outside depth).verdict rest := by
  have hwithin : (Reader.outside depth).verdictWithin body ("*/ ".toList ++ rest) = none := by
    have hbody := h.undecided
    rw [Reader.verdict_append, Option.or_eq_none_iff] at hbody
    rw [← hbody.1]
    exact Reader.verdictWithin_congr (s := '*') (by decide) fun hblank _ =>
      absurd hblank (by decide)
  rw [Reader.verdict_outside_of_isPlain (isPlain_of_all (by decide)), Reader.verdict_append,
    hwithin, h.returns, Option.none_or,
    Reader.verdict_outside_of_isPlain (isPlain_of_all (by decide))]

/-- What stands behind a blank outside of strings may be exchanged if the verdict on it is the same
and, where the blank is right behind a group, the same keyword comes next. -/
theorem ofSql_congr {x t t' : List Char} {sql sql' : String} {depth : Int}
    (hsql : sql.toList = x ++ ' ' :: t) (hsql' : sql'.toList = x ++ ' ' :: t')
    (hwith : startsWith "WITH".toList sql.toList = true)
    (hcut : (Reader.outside 0).after x = .outside depth)
    (hrest : (Reader.outside depth).verdict t = (Reader.outside depth).verdict t')
    (hkeyword : (Reader.outside 0).ClosesGroup x →
      ofKeyword? (dropBlanks t) = ofKeyword? (dropBlanks t')) :
    ofSql sql = ofSql sql' := by
  have hwith' : startsWith "WITH".toList sql'.toList = true := by
    rw [hsql] at hwith
    rw [hsql', startsWith_append_cons (by decide) x t' t, hwith]
  have hplain : ∀ c ∈ [' '], IsPlain c := isPlain_of_all (by decide)
  have hblank : ∀ u : List Char, (Reader.outside depth).verdict (' ' :: u) =
      (Reader.outside depth).verdict u := Reader.verdict_outside_of_isPlain hplain depth
  rw [ofSql_of_startsWith_with hwith, ofSql_of_startsWith_with hwith', hsql, hsql',
    Reader.verdict_append, Reader.verdict_append, hcut, hblank, hblank, hrest,
    Reader.verdictWithin_congr (by decide) fun _ => hkeyword]

/-- In a statement that starts with WITH, a quiet comment that stands outside of strings is read as
a comma would be. It leaves the kind of the statement as it is, unless it stands between a group at
the top level and a keyword: neither the slash of the comment nor the comma starts one. -/
theorem comment_reads_as_comma {x y body : String} {depth : Int}
    (hwith : startsWith "WITH".toList (x ++ " " ++ y).toList = true)
    (hcut : (Reader.outside 0).after x.toList = .outside depth)
    (hquiet : Quiet depth body.toList) :
    ofSql (x ++ " /*" ++ body ++ "*/ " ++ y) = ofSql (x ++ " , " ++ y) ∧
    (((Reader.outside 0).ClosesGroup x.toList → ofKeyword? (dropBlanks y.toList) = none) →
      ofSql (x ++ " /*" ++ body ++ "*/ " ++ y) = ofSql (x ++ " " ++ y)) := by
  have hplain : (x ++ " " ++ y).toList = x.toList ++ ' ' :: y.toList := by simp
  have hcomma : (x ++ " , " ++ y).toList = x.toList ++ ' ' :: (", ".toList ++ y.toList) := by simp
  have hcomment : (x ++ " /*" ++ body ++ "*/ " ++ y).toList =
      x.toList ++ ' ' :: ("/*".toList ++ (body.toList ++ ("*/ ".toList ++ y.toList))) := by simp
  have hwith' : startsWith "WITH".toList (x ++ " /*" ++ body ++ "*/ " ++ y).toList = true := by
    rw [hplain] at hwith
    rw [hcomment, startsWith_append_cons (by decide) x.toList _ y.toList, hwith]
  have hslash : ofKeyword?
      (dropBlanks ("/*".toList ++ (body.toList ++ ("*/ ".toList ++ y.toList)))) = none :=
    ofKeyword?_cons_of_separates (s := '/') (by decide) _
  have hcommaHead : ofKeyword? (dropBlanks (", ".toList ++ y.toList)) = none :=
    ofKeyword?_cons_of_separates (s := ',') (by decide) _
  constructor
  · refine ofSql_congr hcomment hcomma hwith' hcut ?_ fun _ => hslash.trans hcommaHead.symm
    rw [hquiet.verdict_comment, Reader.verdict_outside_of_isPlain (isPlain_of_all (by decide))]
  · intro hkeyword
    exact ofSql_congr hcomment hplain hwith' hcut (hquiet.verdict_comment y.toList) fun hcloses =>
      hslash.trans (hkeyword hcloses).symm

/-- A comment inside a group is read as a comma and changes nothing. -/
theorem comment_inside_group :
    startsWith "WITH".toList ("WITH a AS (SELECT 1" ++ " " ++ "FROM b) DELETE FROM t").toList ∧
    (Reader.outside 0).after "WITH a AS (SELECT 1".toList = .outside 1 ∧
    Quiet 1 " one, two ".toList ∧
    ¬ (Reader.outside 0).ClosesGroup "WITH a AS (SELECT 1".toList ∧
    ofSql ("WITH a AS (SELECT 1" ++ " /*" ++ " one, two " ++ "*/ " ++ "FROM b) DELETE FROM t") =
      ofSql ("WITH a AS (SELECT 1" ++ " , " ++ "FROM b) DELETE FROM t") ∧
    ofSql ("WITH a AS (SELECT 1" ++ " /*" ++ " one, two " ++ "*/ " ++ "FROM b) DELETE FROM t") =
      ofSql ("WITH a AS (SELECT 1" ++ " " ++ "FROM b) DELETE FROM t") := by
  have hwith : startsWith "WITH".toList
      ("WITH a AS (SELECT 1" ++ " " ++ "FROM b) DELETE FROM t").toList = true := by
    decide +kernel
  have hcut : (Reader.outside 0).after "WITH a AS (SELECT 1".toList = .outside 1 := by
    decide +kernel
  have hquiet : Quiet 1 " one, two ".toList := quiet_of_isPlain (isPlain_of_all (by decide +kernel)) 1
  have hopen : ¬ (Reader.outside 0).ClosesGroup "WITH a AS (SELECT 1".toList := by
    rintro ⟨before, blanks, hsplit, -, -⟩
    have hmem : ')' ∈ "WITH a AS (SELECT 1".toList := by simp [hsplit]
    exact absurd hmem (by decide +kernel)
  obtain ⟨hcomma, hsame⟩ := comment_reads_as_comma hwith hcut hquiet
  exact ⟨hwith, hcut, hquiet, hopen, hcomma, hsame fun hcloses => absurd hcloses hopen⟩

/-- A comment between a group and the keyword behind it hides the keyword, and one with a
parenthesis in it can end a group. -/
theorem comment_hides_keyword :
    ofSql ("WITH a AS (SELECT 1)" ++ " /*" ++ " note " ++ "*/ " ++ "DELETE FROM t") = .select ∧
    ofSql ("WITH a AS (SELECT 1)" ++ " " ++ "DELETE FROM t") = .delete ∧
    ofSql ("WITH a AS (SELECT 1" ++ " /*" ++ ") delete " ++ "*/ " ++ "FROM b) SELECT 2") = .delete ∧
    ofSql ("WITH a AS (SELECT 1" ++ " " ++ "FROM b) SELECT 2") = .select := by
  decide +kernel

end SqlAccess.QueryKind
