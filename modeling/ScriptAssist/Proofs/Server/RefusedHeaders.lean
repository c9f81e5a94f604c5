import ScriptAssist.Proofs.Rpc.RefusedLines
import ScriptAssist.Proofs.Rpc.RoundTrip
import ScriptAssist.Proofs.Server.Session

/-!
# Runs over refused headers

A run answers each refused header line with an error of its own, and goes on with what is behind the
line as if a new block began there (`Server.run_lines`). So one block may be answered with several
errors, and the lines behind the last refused one are taken for the headers of the next frame
(`Server.run_headerBlock`).
-/

namespace ScriptAssist

open Text Rpc

/-- What is sent for headers that are refused: an error response for each, which has no id. -/
def Rpc.HeaderFault.answers (faults : List HeaderFault) : List UInt8 :=
  faults.flatMap fun fault => (Message.response (.failure .null fault.fault)).frame

namespace Server

variable {s : Server} {stream rest : List UInt8}

theorem hear_of_header (s : Server) (fault : HeaderFault) (rest : List UInt8) :
    s.hear ⟨.error (.header fault), rest⟩ = (s, [.response (.failure .null fault.fault)]) := by
  cases fault <;> rfl

/-- Wherever the server is, its run does what the session says. -/
theorem run_of_session {before : List Reading} {last : Reading} (h : Session stream before last)
    (hphase : s.phase ≠ .shutDown) (written : List UInt8) :
    run s ⟨written, none⟩ stream = s.leave written (before ++ [last]) last :=
  runFor_eq_leave h hphase written (Nat.lt_succ_self _)

/-- Two streams that are read alike are run alike. -/
theorem run_of_readMessage_eq (hphase : s.phase ≠ .shutDown)
    (h : readMessage stream = readMessage rest) (written : List UInt8) :
    run s ⟨written, none⟩ stream = run s ⟨written, none⟩ rest := by
  have hreading : Reading.ofStream stream = .ofStream rest := by
    simp only [Reading.ofStream, h]
  obtain ⟨before, last, hsession⟩ := exists_session rest
  have hsame : Session stream before last := by
    cases hsession with
    | last hends =>
      rw [← hreading] at hends ⊢
      exact .last hends
    | more hgoes hrest =>
      rw [← hreading] at hgoes hrest ⊢
      exact .more hgoes hrest
  rw [run_of_session hsame hphase, run_of_session hsession hphase]

/-- A header that is refused is answered, and the run goes on with what the reading leaves. -/
theorem run_of_header (hphase : s.phase ≠ .shutDown) {fault : HeaderFault}
    (h : readMessage stream = (.error (.header fault), rest)) (written : List UInt8) :
    run s ⟨written, none⟩ stream =
      run s ⟨written ++ HeaderFault.answers [fault], none⟩ rest := by
  have hreading : Reading.ofStream stream = ⟨.error (.header fault), rest⟩ := by
    simp only [Reading.ofStream, h]
  obtain ⟨before, last, hsession⟩ := exists_session rest
  have hgoes : (Reading.ofStream stream).ends = false := by
    rw [hreading]
    cases fault <;> rfl
  have hmore : Session stream (.ofStream stream :: before) last := by
    refine .more hgoes ?_
    rw [hreading]
    exact hsession
  rw [run_of_session hmore hphase, run_of_session hsession hphase, hreading]
  simp [leave, hearAll, hear_of_header, HeaderFault.answers]

/-- Every refused line is answered, and the run goes on with the lines behind the last of them. -/
theorem run_lines (hphase : s.phase ≠ .shutDown) {lines : List (List Char)}
    (hfeed : ∀ line ∈ lines, '\n' ∉ line) (hblank : ∀ line ∈ lines, ¬ AllBlank line)
    (written rest : List UInt8) :
    run s ⟨written, none⟩ (lines.flatMap lineBytes ++ rest) =
      run s ⟨written ++ HeaderFault.answers (lines.filterMap refusal?), none⟩
        ((remainder lines).flatMap lineBytes ++ rest) := by
  -- From the end: what stands before the last line is settled first, and this line may clear what
  -- was left of it.
  induction lines using List.reverseRecOn generalizing rest with
  | nil => simp [HeaderFault.answers, remainder]
  | append_singleton lines line ih =>
    obtain ⟨hfeed, hfeedLast⟩ := List.forall_mem_append.1 hfeed
    obtain ⟨hblank, hblankLast⟩ := List.forall_mem_append.1 hblank
    have hfeedLast := List.forall_mem_singleton.1 hfeedLast
    have hblankLast := List.forall_mem_singleton.1 hblankLast
    rw [List.flatMap_append, List.flatMap_singleton, List.append_assoc, ih hfeed hblank,
      List.filterMap_append, remainder_concat]
    cases hline : refusal? line with
    | none => simp [hline]
    | some fault =>
      have hheaders : ∀ other ∈ remainder lines, IsHeader other := fun other hother =>
        isHeader_of_mem_remainder hfeed hblank hother
      rw [run_of_header hphase (readMessage_refused hheaders hfeedLast hblankLast
        (refusal?_eq_some_iff.1 hline) rest)]
      simp [hline, HeaderFault.answers]

/-- What becomes of a block. One reading refuses it exactly as the block is refused, and takes it to
its end only if none of its lines is a length header. A run answers every refused line, and reads
the lines behind the last of them: if there are none, it goes on behind the block; if they have no
length header, it answers once more; and if they give a length, a frame is read with it from the
bytes behind the block. -/
theorem run_headerBlock (b : HeaderBlock) (rest : List UInt8) :
    (∀ fault left,
      readMessage (b.bytes ++ rest) = (.error (.header fault), left) ↔
        b.Rejected rest fault left) ∧
    (∀ fault left, b.Rejected rest fault left → (left = rest ↔ fault = .noLength)) ∧
    ∀ (s : Server) (written : List UInt8), s.phase ≠ .shutDown →
      let faults := b.lines.filterMap refusal?
      let behind := remainder b.lines
      (behind = [] →
        run s ⟨written, none⟩ (b.bytes ++ rest) =
          run s ⟨written ++ HeaderFault.answers faults, none⟩ rest) ∧
      (behind ≠ [] → (∀ line ∈ behind, ∀ value, ¬ LengthHeader line value) →
        run s ⟨written, none⟩ (b.bytes ++ rest) =
          run s ⟨written ++ HeaderFault.answers (faults ++ [.noLength]), none⟩ rest) ∧
      ∀ n, LastLength behind n →
        let frame := behind.flatMap lineBytes ++ (lineBytes b.closing ++ rest)
        run s ⟨written, none⟩ (b.bytes ++ rest) =
          run s ⟨written ++ HeaderFault.answers faults, none⟩ frame ∧
        (n ≤ rest.length →
          readMessage frame = ((Message.ofBody (rest.take n)).map some, rest.drop n)) := by
  refine ⟨fun fault left => HeaderBlock.readMessage_eq_iff, fun fault left h => h.left_eq_iff, ?_⟩
  intro s written hphase faults behind
  have hlines : run s ⟨written, none⟩ (b.bytes ++ rest) =
      run s ⟨written ++ HeaderFault.answers faults, none⟩
        (behind.flatMap lineBytes ++ (lineBytes b.closing ++ rest)) := by
    rw [HeaderBlock.bytes, List.append_assoc]
    exact run_lines hphase b.no_feed b.not_blank written _
  have hheaders : ∀ line ∈ behind, IsHeader line := fun line hline =>
    isHeader_of_mem_remainder b.no_feed b.not_blank hline
  refine ⟨fun hnone => ?_, fun hsome hother => ?_, fun n hlast => ⟨hlines, fun hle => ?_⟩⟩
  · rw [hlines, hnone]
    exact run_of_readMessage_eq hphase (readMessage_blankLine b.closing_blank rest) _
  · have hread := readMessage_noLength hsome hheaders hother b.closing_blank rest
    rw [hlines, run_of_header hphase hread]
    simp [HeaderFault.answers]
  · exact readMessage_of_body (readBlock_of_lastLength hheaders hlast b.closing_blank rest) hle

end Server

namespace Sample

theorem isBlankLine_return : IsBlankLine ['\r'] :=
  ⟨by decide, by decide⟩

/-- A block of two lines, the first of which is refused. -/
def torn (second : List Char) (hfeed : '\n' ∉ second) (hblank : ¬ AllBlank second) :
    HeaderBlock where
  lines := ["Content-Length: x".toList, second]
  closing := ['\r']
  lines_ne_nil := List.cons_ne_nil _ _
  no_feed := List.forall_mem_cons.2 ⟨by decide, List.forall_mem_singleton.2 hfeed⟩
  not_blank := List.forall_mem_cons.2 ⟨by decide, List.forall_mem_singleton.2 hblank⟩
  closing_blank := isBlankLine_return

theorem refused_first : Refused "Content-Length: x".toList (.badLength .notADigit) :=
  refusal?_eq_some_iff.1 (by decide)

theorem rejected_torn {second : List Char} (hfeed : '\n' ∉ second) (hblank : ¬ AllBlank second)
    (rest : List UInt8) :
    (torn second hfeed hblank).Rejected rest (.badLength .notADigit)
      (lineBytes second ++ (lineBytes ['\r'] ++ rest)) := by
  have hlines : (torn second hfeed hblank).lines = [] ++ "Content-Length: x".toList :: [second] :=
    rfl
  have hrejected : (torn second hfeed hblank).Rejected rest (.badLength .notADigit)
      ([second].flatMap lineBytes ++ (lineBytes ['\r'] ++ rest)) :=
    .line hlines (List.forall_mem_nil _) refused_first
  rwa [List.flatMap_singleton] at hrejected

end Sample

open Sample

/-- The second line is left, and answered once more. -/
theorem Server.run_torn :
    let b := torn "X-Other: 1".toList (by decide) (by decide)
    (readMessage (b.bytes ++ [])).1 = .error (.header (.badLength .notADigit)) ∧
      (readMessage (b.bytes ++ [])).2 = lineBytes "X-Other: 1".toList ++ lineBytes ['\r'] ∧
      (readMessage (b.bytes ++ [])).2 ≠ [] ∧
      (run { settings := {} } {} (b.bytes ++ [])).sink.written =
        HeaderFault.answers [.badLength .notADigit, .noLength] := by
  intro b
  have hphase : ({ settings := {} } : Server).phase ≠ .shutDown := by decide
  have hrejected : b.Rejected [] (.badLength .notADigit)
      (lineBytes "X-Other: 1".toList ++ (lineBytes ['\r'] ++ [])) := rejected_torn _ _ []
  have hread := hrejected.readMessage
  have hleft : lineBytes "X-Other: 1".toList ++ (lineBytes ['\r'] ++ []) ≠ [] := by
    rw [ne_eq, hrejected.left_eq_iff]
    nofun
  have hlength : Block.lengthOf (trim "X-Other: 1".toList) = .ok none := by decide
  have hheader : IsHeader "X-Other: 1".toList :=
    isHeader_of_lengthOf (by decide) (by decide) none hlength
  have hother : ∀ value, ¬ LengthHeader "X-Other: 1".toList value := by
    intro value hvalue
    obtain ⟨n, -, -, hn⟩ := givesLength_of_lengthOf hvalue hlength
    cases hn
  have hsecond := readMessage_noLength (List.cons_ne_nil "X-Other: 1".toList [])
    (List.forall_mem_singleton.2 hheader) (List.forall_mem_singleton.2 hother) isBlankLine_return []
  rw [List.flatMap_singleton] at hsecond
  refine ⟨by rw [hread], by rw [hread, List.append_nil], by rwa [hread], ?_⟩
  have hend : ∀ written, (run { settings := {} } ⟨written, none⟩ []).sink.written = written :=
    fun _ => rfl
  rw [Server.run_of_header hphase hread, Server.run_of_header hphase hsecond, hend]
  simp [HeaderFault.answers]

/-- The second line is taken for the header of a frame, whose body is read from the bytes behind the
block. -/
theorem Server.run_headerBlock_torn :
    let hline : IsHeader (plainHeader 2) := isHeader_plainHeader (by decide)
    let b := torn (plainHeader 2) hline.no_feed hline.not_blank
    let rest := Utf8.encode "[]"
    let frame := lineBytes (plainHeader 2) ++ (lineBytes ['\r'] ++ rest)
    b.Rejected rest (.badLength .notADigit) frame ∧ frame ≠ rest ∧
      readMessage (b.bytes ++ rest) = (.error (.header (.badLength .notADigit)), frame) ∧
      LastLength (remainder b.lines) 2 ∧ ({ settings := {} } : Server).phase ≠ .shutDown ∧
      (run { settings := {} } {} (b.bytes ++ rest)) =
        run { settings := {} } ⟨HeaderFault.answers [.badLength .notADigit], none⟩ frame ∧
      readMessage frame = ((Message.ofBody rest).map some, []) := by
  intro hline b rest frame
  have hphase : ({ settings := {} } : Server).phase ≠ .shutDown := by decide
  have hrejected := rejected_torn hline.no_feed hline.not_blank rest
  have hbehind : remainder b.lines = [plainHeader 2] := by decide
  have hfaults : b.lines.filterMap refusal? = [.badLength .notADigit] := by decide
  have hlast : LastLength [plainHeader 2] 2 :=
    @LastLength.intro [] [] _ 2 (givesLength_plainHeader 2) (List.forall_mem_nil _)
  obtain ⟨hreads, hleft, hrun⟩ := run_headerBlock b rest
  obtain ⟨-, -, hframe⟩ := hrun { settings := {} } [] hphase
  rw [hbehind, hfaults] at hframe
  obtain ⟨hsame, hbody⟩ := hframe 2 hlast
  rw [List.flatMap_singleton] at hsame hbody
  refine ⟨hrejected, ?_, (hreads _ _).2 hrejected, hbehind ▸ hlast, hphase, hsame,
    hbody (Nat.le_refl 2)⟩
  rw [ne_eq, hleft _ _ hrejected]
  nofun

end ScriptAssist
