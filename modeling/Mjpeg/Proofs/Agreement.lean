import Mjpeg.Proofs.Announcement
import Mjpeg.Proofs.Pipeline

/-!
# Boundaries that are announced and boundaries that are given

A stream takes the boundary that a content type announces, and `extract` takes a token from its
command line. A user may write the token with the two dashes that stand before it in a body, so
pairs of dashes are taken off the argument (`tokenOfArgument_append`).

The token of an announced boundary may itself begin with two dashes. If it does not, the frames that
`extract` prints are those of a reader with that boundary. If it does, they are those of another
boundary (`extract_announced`), and dashes of the delimiter end up in the payloads
(`extract_announced_dashes`).
-/

namespace Mjpeg.Command

open Extract

variable {env : Environment}

/-- An argument is what is left of it behind pairs of dashes. -/
theorem tokenOfArgument_append {rest : List Char} (h : ¬ "--".toList <+: rest) (n : Nat) :
    tokenOfArgument ((List.replicate n "--".toList).flatten ++ rest) = rest := by
  induction n with
  | zero =>
    rw [List.replicate_zero, List.flatten_nil, List.nil_append]
    unfold tokenOfArgument
    split
    · exact absurd ⟨_, rfl⟩ h
    · rfl
  | succ n ih =>
    rw [List.replicate_succ, List.flatten_cons, List.append_assoc]
    exact ih

/-- **The frames of a body are the same whether its boundary is announced or given.** The token of
an announced boundary is a text. If it does not begin with two dashes, `extract` prints the frames
that a reader with that boundary answers. Pairs of dashes at its start are taken off: then the
frames are those of a reader with what is left of it, and if nothing is left the argument is
refused. -/
theorem extract_announced (contentType : String) (b : Boundary)
    (hb : Boundary.ofContentType? (some contentType) = .ok b) :
    ∃ token : String, b.token = Bytes.ofText token ∧
      ∀ build words env invocation input body, parse words = .ok invocation →
        invocation.request = .extract ⟨input, token, none, none⟩ → Captures env input body →
        ∃ o, run build words env = some o ∧
          (¬ "--".toList <+: token.toList →
            o.stdout = printedFrames invocation env input (readingOf b body).frames
              (decide (o.exit = .success))) ∧
          ∀ n rest, token.toList = (List.replicate n "--".toList).flatten ++ rest →
            ¬ "--".toList <+: rest →
            (∀ b' : Boundary, b'.token = rest.flatMap String.utf8EncodeChar →
              o.stdout = printedFrames invocation env input (readingOf b' body).frames
                (decide (o.exit = .success))) ∧
            (rest = [] → o.exit = .usage ∧ o.stdout = []) := by
  obtain ⟨value, chars, -, -, hbytes⟩ := Boundary.ofContentType?_eq_ok_iff.mp hb
  have htoken : b.token = Bytes.ofText (String.ofList chars) := by
    rw [hbytes, Bytes.ofText, String.toList_ofList]
  refine ⟨String.ofList chars, htoken, fun build words env invocation input body hparse hrequest
    hbody => ⟨_, run_extract build hparse hrequest, fun hdashes => ?_, fun n rest heq hrest =>
      ⟨fun b' hb' => ?_, fun hnil => ?_⟩⟩⟩
  · have hplain : tokenOfArgument (String.ofList chars).toList = (String.ofList chars).toList :=
      tokenOfArgument_append hdashes 0
    exact stdout_plainArguments (by rw [hplain, htoken, String.ofList_toList]) hbody invocation
  · have hstripped : tokenOfArgument (String.ofList chars).toList = rest := by
      rw [heq, tokenOfArgument_append hrest]
    refine stdout_plainArguments ?_ hbody invocation
    rw [hstripped, hb', Bytes.ofText, String.toList_ofList]
  · have hstripped : tokenOfArgument (String.ofList chars).toList = [] := by
      rw [heq, tokenOfArgument_append hrest, hnil]
    have hreport : Extract.report (plainArguments input (String.ofList chars)) env = _ :=
      report_of_token_nil hstripped
    change (outcomeOf invocation env (Extract.report (plainArguments input _) env)).exit = _ ∧
      (outcomeOf invocation env (Extract.report (plainArguments input _) env)).stdout = _
    rw [hreport]
    exact ⟨rfl, render_nil_false _ _⟩

/-- A token without dashes before it. -/
theorem extract_announced_plain :
    let body := Bytes.ofText "--cam\r\n\r\nX\r\n--cam"
    let words := ["--format", "raw", "extract", "-", "--boundary", "cam"]
    let env : Environment := ⟨body, ⟨[]⟩, ⟨[], .status 404 "Not Found"⟩, none, "now", 0⟩
    ∃ o, run ⟨"", "", "", "", ""⟩ words env = some o ∧ o.stdout = Bytes.ofText "X" := by
  intro body words env
  let b : Boundary := ⟨Bytes.ofText "cam", by decide⟩
  have hframes : (readingOf b body).frames = [⟨[], Bytes.ofText "X"⟩] := by decide +kernel
  have hparse : parse words = .ok ⟨some .raw, .text, .info, .extract ⟨"-", "cam", none, none⟩⟩ := by
    decide +kernel
  obtain ⟨token, htoken, hall⟩ :=
    extract_announced "multipart/x-mixed-replace; boundary=cam" b (by decide)
  obtain rfl : "cam" = token := String.toList_inj.mp (Text.flatMap_utf8EncodeChar_inj htoken)
  obtain ⟨o, hrun, hprinted, -⟩ :=
    hall ⟨"", "", "", "", ""⟩ words env _ "-" body hparse rfl (captures_stdin env)
  refine ⟨o, hrun, (hprinted (by decide)).trans ?_⟩
  rw [hframes]
  rfl

/-- **A token that begins with two dashes**: a reader with the announced boundary answers the
payload, and `extract` prints it with a line end and two dashes of the delimiter behind it. -/
theorem extract_announced_dashes :
    let body := Bytes.ofText "----cam\r\n\r\nX\r\n----cam"
    let b : Boundary := ⟨Bytes.ofText "--cam", by decide⟩
    let words := ["--format", "raw", "extract", "-", "--boundary=--cam"]
    let env : Environment := ⟨body, ⟨[]⟩, ⟨[], .status 404 "Not Found"⟩, none, "now", 0⟩
    Boundary.ofContentType? (some "multipart/x-mixed-replace; boundary=--cam") = .ok b ∧
      parse words = .ok ⟨some .raw, .text, .info, .extract ⟨"-", "--cam", none, none⟩⟩ ∧
      Captures env "-" body ∧
      (readingOf b body).frames = [⟨[], Bytes.ofText "X"⟩] ∧
      (run ⟨"", "", "", "", ""⟩ words env).map (·.stdout) = some (Bytes.ofText "X\r\n--") := by
  intro body b words env
  exact ⟨by decide, by decide +kernel, captures_stdin env, by decide +kernel, by decide +kernel⟩

end Mjpeg.Command
