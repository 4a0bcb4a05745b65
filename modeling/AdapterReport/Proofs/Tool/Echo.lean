import AdapterReport.Proofs.Text.Lines
import AdapterReport.Proofs.Text.WellFormed
import AdapterReport.Proofs.Tool.Alone
import AdapterReport.Proofs.Tool.Escape
import AdapterReport.Proofs.Tool.Executable

/-!
# What a utility prints

`Runner.result_of_says`: the result of a tool of one process is what it says, whatever the limit is.
`Utility.says_finish` is how the utilities that print a text end. `Runner.run_echo` puts this
together with the search for the program and the bytes of the arguments: of words that are no
options, `echo` prints the line. So does the shell's own `echo` (`Echo.builtinOutput_of_plain`).
-/

namespace AdapterReport

open Text.Utf8 (encode encode_append)

/-! ## Byte texts -/

namespace Text.ByteText

theorem toBytes_append (s t : String) : toBytes (s ++ t) = toBytes s ++ toBytes t := by
  simp [toBytes]

theorem toBytes_ofText (s : String) : toBytes (ofText s) = encode s :=
  toBytes_ofBytes (encode s)

/-- Words can be joined before or after they are turned into bytes. -/
theorem toBytes_intercalate {separator : String} (h : toBytes separator = encode separator)
    (words : List String) :
    toBytes (separator.intercalate (words.map ofText)) = encode (separator.intercalate words) := by
  induction words with
  | nil => rfl
  | cons word rest ih =>
    cases rest with
    | nil => exact toBytes_ofText word
    | cons next rest =>
      rw [List.map_cons, String.intercalate_cons_of_ne_nil (by simp),
        String.intercalate_cons_of_ne_nil (by simp), toBytes_append, toBytes_append, ih, h,
        toBytes_ofText, Utf8.encode_append, Utf8.encode_append]

theorem eq_minus_of_encodeChar {c : Char} {s : List UInt8}
    (h : (String.utf8EncodeChar c ++ s).head? = some 45) : c = '-' := by
  have hrange := Utf8.toNat_range c
  have hfirst {n : Nat} (hn : n < 256) (heq : some (UInt8.ofNat n) = some 45) : n = 45 := by
    rw [← Utf8.toNat_ofNat hn, Option.some.inj heq]
    rfl
  rw [Utf8.encodeChar_eq] at h
  split at h
  · have hc : c.toNat = '-'.toNat := hfirst (by omega) h
    exact Char.toNat_inj.mp hc
  · -- the first one of several bytes is greater
    split at h
    · have := hfirst (by omega) h
      omega
    · split at h
      · have := hfirst (by omega) h
        omega
      · have := hfirst (by omega) h
        omega

/-- The first byte of a text is a minus only if its first character is. -/
theorem head?_ofText {s : String} (h : s.toList.head? ≠ some '-') :
    (ofText s).toList.head? ≠ some '-' := by
  intro hminus
  rw [ofText, ofBytes, String.toList_ofList, List.head?_map, Option.map_eq_some_iff] at hminus
  obtain ⟨byte, hhead, hbyte⟩ := hminus
  obtain rfl : byte = 45 := by
    rw [← byteOf_charOf byte, hbyte]
    rfl
  rw [encode] at hhead
  cases hs : s.toList with
  | nil => simp [hs] at hhead
  | cons c rest =>
    rw [hs, List.flatMap_cons] at hhead
    rw [hs, eq_minus_of_encodeChar hhead] at h
    exact h rfl

end Text.ByteText

/-! ## Results -/

namespace Machine

/-- All that is written to a channel. -/
def bytesOf (ws : List Write) (channel : Channel) : List UInt8 :=
  (ws.filter (·.channel == channel)).flatMap (·.data)

theorem Says.time_le {code : Process} {t ended : Time} {ws : List Write} {status : UInt8} {n : Nat}
    (h : Says code t ws ended status n) : ∀ x ∈ ws, x.time ≤ ended := by
  induction h with
  | exit => nofun
  | pass _ ih => exact ih
  | write _ h ih =>
    exact List.forall_mem_cons.mpr ⟨Nat.le_trans (Nat.le_add_right _ _) h.le, ih⟩

end Machine

namespace Runner

open Machine Capture

variable {r : Runner} {code : Process} {ended : Time} {ws : List Write} {status : UInt8} {k : Nat}

theorem lt_lookAfter (time : Time) : time < lookAfter time := by
  rw [lookAfter, Nat.add_mul, Nat.one_mul]
  exact Nat.lt_div_mul_add (by decide)

/-- **The result of a tool of one process** is what it says. -/
theorem result_of_says (hsaid : Says code startTime ws ended status k) (hk : k ≤ maxSteps)
    (htime : lookAfter ended < r.timeout) (files : FileTree) :
    r.result (activity files code) =
      ⟨(Capture.empty r.limit).push (bytesOf ws .output),
        (Capture.empty r.limit).push (bytesOf ws .errors), some status, false⟩ := by
  have hactivity : activity files code r.watch = ⟨ws, some (ended, .exited status)⟩ :=
    activity_of_says hsaid hk (Nat.lt_trans (lt_lookAfter ended) htime)
      (Nat.le_add_right r.timeout grace) files
  have horderly : Activity.Orderly r.watch ⟨ws, some (ended, .exited status)⟩ :=
    hactivity ▸ orderly_activity files code r.watch
  have hall (channel : Channel) :
      r.captureAtEnd ⟨ws, some (ended, .exited status)⟩ channel (lookAfter ended) =
        (Capture.empty r.limit).push (bytesOf ws channel) := by
    have hwritten : Activity.written ⟨ws, some (ended, .exited status)⟩ channel 0
        (lookAfter ended) = (ws.filter (·.channel == channel)).map (·.data) := by
      refine congrArg _ (List.filter_congr fun x hx => ?_)
      have hlt : x.time < lookAfter ended :=
        Nat.lt_of_le_of_lt (hsaid.time_le x hx) (lt_lookAfter _)
      simp [hlt]
    rw [captureAtEnd_eq_before horderly, captureBefore_eq, hwritten]
    rfl
  simp only [result, hactivity, if_pos htime, resultInTime, hall]
  rfl

end Runner

/-! ## Utilities -/

open Machine in
/-- What was kept back is printed at the end. -/
theorem Utility.says_finish (name : String) {pending : List UInt8} (h : pending ≠ [])
    (status : UInt8) (t : Time) :
    Says (finish name pending status) t [⟨t, .output, pending⟩] (t + movingTime pending.length)
      status 2 := by
  unfold finish Task.write
  rw [if_neg (by simpa using h)]
  exact .write .output (.exit status _)

namespace Echo

open Text.ByteText (ofText toBytes)

variable {arguments : List String}

theorem not_option {s : String} (h : s.toList.head? ≠ some '-') : isOption s = false := by
  unfold isOption
  split
  · rename_i heq
    rw [heq] at h
    exact absurd rfl h
  · rfl

/-- Words that begin with no option are printed as they are. -/
theorem externalOutput_of_plain (h : ∀ a ∈ arguments.head?, a.toList.head? ≠ some '-') :
    externalOutput arguments = joined arguments ++ "\n" := by
  have hoptions : arguments.takeWhile isOption = [] ∧ arguments.dropWhile isOption = arguments := by
    cases arguments with
    | nil => exact ⟨rfl, rfl⟩
    | cons a rest => simp [not_option (h a rfl)]
  simp [externalOutput, hoptions, asksForEscapes]

/-- **The shell's own command** prints the same, if there are no escapes, which it always reads. -/
theorem builtinOutput_of_plain (h : ∀ a ∈ arguments.head?, a.toList.head? ≠ some '-')
    (hplain : ∀ a ∈ arguments, '\\' ∉ a.toList) :
    builtinOutput arguments = externalOutput arguments := by
  have hread : Escape.read builtinStyle (joined arguments).toList =
      ((joined arguments).toList, .complete) :=
    Escape.read_of_plain (Text.not_mem_intercalate (by decide) hplain)
  have hwhole : escaped builtinStyle true (joined arguments) = joined arguments ++ "\n" := by
    rw [escaped, hread]
    exact String.toList_inj.mp (by simp)
  rw [externalOutput_of_plain h, ← hwhole]
  unfold builtinOutput
  split
  · exact absurd rfl (h "-n" rfl)
  · rfl

theorem utility_of_plain (name : String) (h : ∀ a ∈ arguments.head?, a.toList.head? ≠ some '-') :
    utility name arguments =
      Utility.finish name (toBytes (joined arguments ++ "\n")) 0 := by
  have hne (word : String) (hword : word.toList.head? = some '-') :
      (arguments == [word]) = false := by
    rw [beq_eq_false_iff_ne]
    rintro rfl
    exact h word rfl hword
  rw [utility, hne "--help" rfl, hne "--version" rfl, externalOutput_of_plain h]
  rfl

end Echo

namespace Runner

open Text.ByteText (ofText)

variable {r : Runner} {words : List String}

/-- The name of a standard program is a command, and no path. -/
theorem command_standard : ∀ name ∈ FileTree.standardPrograms,
    name.isEmpty = false ∧ name.toList.any isShellCharacter = false ∧ isFromRoot name = false ∧
      name.toList.contains '\x00' = false := by
  decide +kernel

/-- A utility is started by its name, on a machine of its own. -/
theorem run_utility {name : String} (hname : name ∈ FileTree.standardPrograms) {u : Utility}
    (hu : Utility.named? name = some u) (hzero : ∀ a ∈ words, '\x00' ∉ a.toList) :
    r.run Toolbox.standard name words =
      .ok (r.result (Machine.activity Executable.files (u (ofText name) (words.map ofText)))) := by
  obtain ⟨hempty, hshell, hroot, hclean⟩ := command_standard name hname
  have hchecked : checked name = .ok name := by
    rw [checked, hempty, hshell, if_neg Bool.false_ne_true, if_neg Bool.false_ne_true]
  have hfound : isLost Toolbox.standard name = false := by
    rw [isLost, hroot, Bool.false_and]
  have hwords : (words.any fun s => s.toList.contains '\x00') = false :=
    List.any_eq_false.mpr fun a ha => by simpa using hzero a ha
  have hlaunch : launch Toolbox.standard name words =
      .ok (Machine.activity Executable.files (u (ofText name) (words.map ofText))) := by
    simp only [launch, hclean, hwords, Bool.or_self, Bool.false_eq_true, if_false,
      Toolbox.standard, Executable.find_of_standard hname, Except.map, Toolbox.process, hu,
      Option.getD_some]
  rw [run, hchecked]
  show (if isLost Toolbox.standard name = true then _ else _) = _
  rw [hfound, if_neg Bool.false_ne_true, hlaunch]

/-- **Echo prints its words**, with spaces between them and a line feed behind them, if none of them
has a zero byte, the first one is no option, and there is time to print them all. -/
theorem run_echo (hzero : ∀ a ∈ words, '\x00' ∉ a.toList)
    (hplain : ∀ a ∈ words.head?, a.toList.head? ≠ some '-')
    (htime : lookAfter (Machine.startTime +
      Machine.movingTime (encode (" ".intercalate words ++ "\n")).length) < r.timeout) :
    r.run Toolbox.standard "echo" words =
      .ok ⟨(Capture.empty r.limit).push (encode (" ".intercalate words ++ "\n")),
        Capture.empty r.limit, some 0, false⟩ := by
  have hwords : ∀ a ∈ (words.map ofText).head?, a.toList.head? ≠ some '-' := by
    rw [List.head?_map]
    intro a ha
    obtain ⟨word, hword, rfl⟩ := Option.map_eq_some_iff.mp ha
    exact Text.ByteText.head?_ofText (hplain word hword)
  have hbytes : Text.ByteText.toBytes (Echo.joined (words.map ofText) ++ "\n") =
      encode (" ".intercalate words ++ "\n") := by
    have hspace : Text.ByteText.toBytes " " = encode " " := by decide
    have hline : Text.ByteText.toBytes "\n" = encode "\n" := by decide
    rw [Text.ByteText.toBytes_append, Echo.joined, Text.ByteText.toBytes_intercalate hspace, hline,
      encode_append]
  have hne : encode (" ".intercalate words ++ "\n") ≠ [] := by
    rw [encode_append]
    exact List.append_ne_nil_of_right_ne_nil _ (by decide)
  have hsaid := Utility.says_finish (ofText "echo") hne 0 Machine.startTime
  rw [run_utility (by decide) rfl hzero, Echo.utility_of_plain _ hwords, hbytes,
    result_of_says hsaid (by decide) htime]
  simp [Machine.bytesOf]

end Runner

end AdapterReport
