import SmtScript.Error
import SmtScript.Proofs.Configuration
import SmtScript.Proofs.Decimals
import SmtScript.Solver.Error

/-!
# Messages lose nothing

A message tells what it was made of. Numbers and durations stand at the end of their messages, where
they contain neither the blank nor the bracket in front of them, so they are cut off from the right
whatever the text before them is. Output stands behind lines that contain no line break, so it is
cut off from the left.
-/

namespace SmtScript

/-- Parts that are in range are a duration. -/
theorem Duration.exists_ofParts? {seconds nanos : Nat} (hseconds : seconds < secondsLimit)
    (hnanos : nanos < perSecond) :
    ∃ d, ofParts? seconds nanos = some d ∧ d.nanoseconds = seconds * perSecond + nanos := by
  have hsome : ofParts? seconds nanos ≠ none := by
    rw [ne_eq, ofParts?_eq_none_iff, Nat.div_eq_of_lt hnanos]
    omega
  obtain ⟨d, hd⟩ := Option.ne_none_iff_exists'.mp hsome
  exact ⟨d, hd, ofParts?_eq_some_iff.mp hd⟩

/-! ## Cutting -/

section Cut

variable {c : Char} {front front' back back' : List Char}

/-- There is one way to cut at the first of a character. -/
theorem cut_first (h : c ∉ front) (h' : c ∉ front')
    (heq : front ++ c :: back = front' ++ c :: back') : front = front' ∧ back = back' := by
  have hsplit := congrArg (List.splitOn c) heq
  rw [List.splitOn_append_cons_self_of_not_mem h, List.splitOn_append_cons_self_of_not_mem h']
    at hsplit
  obtain rfl := (List.cons.inj hsplit).1
  exact ⟨rfl, (List.cons.inj (List.append_cancel_left heq)).2⟩

/-- There is one way to cut at the last of a character. -/
theorem cut_last (h : c ∉ back) (h' : c ∉ back')
    (heq : front ++ c :: back = front' ++ c :: back') : front = front' ∧ back = back' := by
  have hreverse := congrArg List.reverse heq
  simp only [List.reverse_append, List.reverse_cons, List.append_assoc, List.singleton_append]
    at hreverse
  obtain ⟨hback, hfront⟩ := cut_first (by simpa using h) (by simpa using h') hreverse
  exact ⟨List.reverse_injective hfront, List.reverse_injective hback⟩

end Cut

/-! ## Numbers and durations -/

theorem arity_message_iff {name name' : String} {expected expected' got got' : Nat} :
    (BuildError.arity name expected got).message = (BuildError.arity name' expected' got').message ↔
      name = name' ∧ expected = expected' ∧ got = got' := by
  have hblank : ∀ n : Nat, ' ' ∉ Nat.toDigits 10 n := fun n =>
    Decimal.not_mem_of_isDigit (Decimal.isDigit_toDigits n) rfl
  have hlist : ∀ name expected got, (BuildError.arity name expected got).message.toList =
      ("`".toList ++ name.toList ++ "` expects".toList ++ ' ' :: Nat.toDigits 10 expected
        ++ " argument(s), got".toList) ++ ' ' :: Nat.toDigits 10 got := by
    intro name expected got
    simp [BuildError.message]
  constructor
  · intro h
    rw [← String.toList_inj, hlist, hlist] at h
    obtain ⟨hfront, hgot⟩ := cut_last (hblank got) (hblank got') h
    obtain ⟨hname, hexpected⟩ :=
      cut_last (hblank expected) (hblank expected') (List.append_cancel_right hfront)
    refine ⟨?_, Decimal.toDigits_injective hexpected, Decimal.toDigits_injective hgot⟩
    exact String.toList_inj.mp (List.append_cancel_left (List.append_cancel_right hname))
  · rintro ⟨rfl, rfl, rfl⟩
    rfl

namespace Solver

theorem timeout_message_iff {tool tool' : String} {limit limit' : Duration} :
    (RunnerError.timeout tool limit).message = (RunnerError.timeout tool' limit').message ↔
      tool = tool' ∧ limit = limit' := by
  have hlist : ∀ tool limit, (RunnerError.timeout tool limit).message.toList =
      (tool.toList ++ " ran out of time ".toList) ++ '(' :: (limit.text ++ [')']) := by
    intro tool limit
    have hopen : " ran out of time (".toList = " ran out of time ".toList ++ ['('] := by simp
    have hclose : ")".toList = [')'] := by simp
    change (tool ++ " ran out of time (" ++ String.ofList limit.text ++ ")").toList = _
    simp only [String.toList_append, String.toList_ofList, hopen, hclose, List.append_assoc,
      List.nil_append, List.cons_append]
  have hbracket : ∀ limit : Duration, '(' ∉ limit.text ++ [')'] := by
    intro limit hmem
    rcases List.mem_append.mp hmem with htext | hlast
    · exact limit.not_mem_text rfl (by decide) htext
    · cases List.mem_singleton.mp hlast
  constructor
  · intro h
    rw [← String.toList_inj, hlist, hlist] at h
    obtain ⟨hfront, hback⟩ := cut_last (hbracket limit) (hbracket limit') h
    exact ⟨String.toList_inj.mp (List.append_cancel_right hfront),
      Duration.text_injective (List.append_cancel_right hback)⟩
  · rintro ⟨rfl, rfl⟩
    rfl

/-! ## Output -/

section Output

variable {tool tool' stdout stdout' : String} {code code' : Int}

theorem toList_signal_message (tool stdout : String) :
    (RunnerError.signal tool stdout).message.toList =
      (tool.toList ++ " terminated by signal.".toList) ++
        '\n' :: ("stdout:\n".toList ++ stdout.toList) := by
  have hfirst : " terminated by signal.\nstdout:\n".toList =
      " terminated by signal.".toList ++ '\n' :: "stdout:\n".toList := by simp
  change (tool ++ " terminated by signal.\nstdout:\n" ++ stdout).toList = _
  simp only [String.toList_append, hfirst, List.append_assoc, List.cons_append]

theorem toList_unexpected_message (tool : String) (code : Int) (stdout : String) :
    (RunnerError.unexpectedResult tool code stdout).message.toList =
      ("unexpected behaviour while running ".toList ++ tool.toList ++ ":".toList) ++
        '\n' :: (("return code: ".toList ++ Decimal.signed code) ++
          '\n' :: ("stdout:\n".toList ++ stdout.toList)) := by
  have hfirst : ":\nreturn code: ".toList = ":".toList ++ '\n' :: "return code: ".toList := by simp
  have hsecond : "\nstdout:\n".toList = '\n' :: "stdout:\n".toList := by simp
  change ("unexpected behaviour while running " ++ tool ++ ":\nreturn code: "
    ++ String.ofList (Decimal.signed code) ++ "\nstdout:\n" ++ stdout).toList = _
  simp only [String.toList_append, String.toList_ofList, hfirst, hsecond, List.append_assoc,
    List.cons_append]

theorem newline_not_mem_signal (h : '\n' ∉ tool.toList) :
    '\n' ∉ tool.toList ++ " terminated by signal.".toList := by
  simpa using h

theorem newline_not_mem_unexpected (h : '\n' ∉ tool.toList) :
    '\n' ∉ "unexpected behaviour while running ".toList ++ tool.toList ++ ":".toList := by
  simpa using h

theorem signal_message_iff (h : '\n' ∉ tool.toList) (h' : '\n' ∉ tool'.toList) :
    (RunnerError.signal tool stdout).message = (RunnerError.signal tool' stdout').message ↔
      tool = tool' ∧ stdout = stdout' := by
  constructor
  · intro heq
    rw [← String.toList_inj, toList_signal_message, toList_signal_message] at heq
    obtain ⟨htool, hstdout⟩ := cut_first (newline_not_mem_signal h) (newline_not_mem_signal h') heq
    exact ⟨String.toList_inj.mp (List.append_cancel_right htool),
      String.toList_inj.mp (List.append_cancel_left hstdout)⟩
  · rintro ⟨rfl, rfl⟩
    rfl

theorem unexpected_message_iff (h : '\n' ∉ tool.toList) (h' : '\n' ∉ tool'.toList) :
    (RunnerError.unexpectedResult tool code stdout).message =
        (RunnerError.unexpectedResult tool' code' stdout').message ↔
      tool = tool' ∧ code = code' ∧ stdout = stdout' := by
  have hcode : ∀ code, '\n' ∉ "return code: ".toList ++ Decimal.signed code := by
    intro code
    simpa using Decimal.newline_not_mem_signed code
  constructor
  · intro heq
    rw [← String.toList_inj, toList_unexpected_message, toList_unexpected_message] at heq
    obtain ⟨htool, hrest⟩ :=
      cut_first (newline_not_mem_unexpected h) (newline_not_mem_unexpected h') heq
    obtain ⟨hnumber, hstdout⟩ := cut_first (hcode code) (hcode code') hrest
    refine ⟨?_, ?_, String.toList_inj.mp (List.append_cancel_left hstdout)⟩
    · exact String.toList_inj.mp (List.append_cancel_left (List.append_cancel_right htool))
    · exact Decimal.signed_injective (List.append_cancel_left hnumber)
  · rintro ⟨rfl, rfl, rfl⟩
    rfl

/-- The first lines end differently. -/
theorem signal_message_ne_unexpected (h : '\n' ∉ tool.toList) (h' : '\n' ∉ tool'.toList) :
    (RunnerError.signal tool stdout).message ≠
      (RunnerError.unexpectedResult tool' code stdout').message := by
  intro heq
  rw [← String.toList_inj, toList_signal_message, toList_unexpected_message] at heq
  obtain ⟨hline, -⟩ := cut_first (newline_not_mem_signal h) (newline_not_mem_unexpected h') heq
  have hlast := congrArg (fun line => line.reverse.head?) hline
  simp at hlast

end Output

/-- **Messages lose nothing.** A duration reads as its nanoseconds, and a message about a number of
arguments, a timeout, a signal or an exit code has only one cause, as long as the name of the tool
is on one line where output follows it. -/
theorem messages_lossless :
    (∀ seconds nanos, seconds < Duration.secondsLimit → nanos < Duration.perSecond →
      ∃ d, Duration.ofParts? seconds nanos = some d ∧
        d.unit = (if 0 < seconds then .second else if 1000000 ≤ nanos then .millisecond
          else if 1000 ≤ nanos then .microsecond else .nanosecond) ∧
        Duration.nanoseconds? d.text = some (seconds * 1000000000 + nanos : ℚ)) ∧
    (∀ tool limit tool' limit',
      (RunnerError.timeout tool limit).message = (RunnerError.timeout tool' limit').message ↔
        tool = tool' ∧ limit = limit') ∧
    (∀ name expected got name' expected' got',
      (BuildError.arity name expected got).message =
          (BuildError.arity name' expected' got').message ↔
        name = name' ∧ expected = expected' ∧ got = got') ∧
    ∀ tool tool' : String, '\n' ∉ tool.toList → '\n' ∉ tool'.toList → ∀ stdout stdout',
      ((RunnerError.signal tool stdout).message = (RunnerError.signal tool' stdout').message ↔
        tool = tool' ∧ stdout = stdout') ∧
      (∀ code code', (RunnerError.unexpectedResult tool code stdout).message =
          (RunnerError.unexpectedResult tool' code' stdout').message ↔
        tool = tool' ∧ code = code' ∧ stdout = stdout') ∧
      ∀ code, (RunnerError.signal tool stdout).message ≠
        (RunnerError.unexpectedResult tool' code stdout').message := by
  refine ⟨fun seconds nanos hseconds hnanos => ?_, fun _ _ _ _ => timeout_message_iff,
    fun _ _ _ _ _ _ => arity_message_iff, fun tool tool' h h' stdout stdout' =>
      ⟨signal_message_iff h h', fun _ _ => unexpected_message_iff h h',
        fun _ => signal_message_ne_unexpected h h'⟩⟩
  obtain ⟨d, hd, hnanoseconds⟩ := Duration.exists_ofParts? hseconds hnanos
  rw [Duration.perSecond] at hnanos hnanoseconds
  refine ⟨d, hd, ?_, ?_⟩
  · rw [Duration.unit, hnanoseconds]
    split_ifs <;> first | rfl | omega
  · rw [Duration.nanoseconds?_text, hnanoseconds]
    push_cast
    rfl

/-- Names and output that look like parts of a message. -/
theorem messages_lossless_lookalikes :
    (∃ d, Duration.ofParts? 1 1 = some d ∧ Duration.nanoseconds? d.text = some 1000000001) ∧
    (RunnerError.signal "z3" "\nstdout:\n").message ≠ (RunnerError.signal "z3" "").message ∧
    (RunnerError.unexpectedResult "z3" (-1) "\nreturn code: 1").message ≠
      (RunnerError.unexpectedResult "z3" 1 "\nreturn code: 1").message ∧
    (RunnerError.signal "unexpected behaviour while running z3:" "").message ≠
      (RunnerError.unexpectedResult "z3 terminated by signal." 1 "").message := by
  obtain ⟨hduration, -, -, houtput⟩ := messages_lossless
  have hz3 := houtput "z3" "z3" (by decide) (by decide)
  refine ⟨?_, ?_, ?_, ?_⟩
  · obtain ⟨d, hd, -, hread⟩ := hduration 1 1 (by decide) (by decide)
    refine ⟨d, hd, hread.trans ?_⟩
    norm_num
  · rw [ne_eq, (hz3 _ _).1]
    decide
  · rw [ne_eq, (hz3 _ _).2.1]
    decide
  · exact (houtput _ _ (by decide) (by decide) _ _).2.2 1

end Solver

end SmtScript
