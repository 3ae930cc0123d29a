import Courier.Proofs.Agreement
import Courier.Proofs.Text.Trimming
import Courier.Proofs.Text.WellFormed
import Courier.Proofs.Uniformity

/-!
# Pages as texts

A page can be had as its bytes or as a text, with or without the blanks around it. The bytes are the
same in all three, and so is all that happens on the way; then they are read as UTF-8, and last the
blanks are taken away (`Agent.decoding`). The bytes are read when they are all there. So a body may
be cut into chunks anywhere, also within a character (`Agent.fetch_recut`).
-/

namespace Courier

/-! ## 1. Bytes as a text -/

theorem Text.trim_eq_iff {t u : String} :
    Text.trim t = u ↔ Text.Bare u.toList ∧ ∃ front back, Text.AllBlank front ∧
      Text.AllBlank back ∧ t.toList = front ++ u.toList ++ back := by
  rw [← Text.trimmed_eq_iff, Text.trim]
  constructor
  · rintro rfl
    exact String.toList_ofList.symm
  · intro h
    rw [h, String.ofList_toList]

namespace Agent

variable {σ : Type} {a : Agent σ} {method : Method} {url : String} {payload bytes : Bytes}
  {trim : Bool} {m : Moment σ}

theorem bodyText_of_decode {text : String} (h : Utf8.decode bytes = .ok text) :
    bodyText url trim bytes = .ok (if trim then Text.trim text else text) := by
  rw [bodyText, h]

theorem bodyText_of_malformed (h : ¬ Utf8.WellFormed bytes) : ∃ malformed : Utf8.Malformed,
    bodyText url trim bytes =
      .error (.decode ("response from " ++ url ++ " is not UTF-8: " ++ malformed.message)) := by
  cases hdecode : Utf8.decode bytes with
  | ok text => exact absurd (Utf8.exists_decode_iff_wellFormed.mp ⟨text, hdecode⟩) h
  | error malformed => exact ⟨malformed, by rw [bodyText, hdecode]⟩

/-- **Bytes become a text just where they are what it is written with.** -/
theorem bodyText_eq_ok_iff {text : String} :
    bodyText url false bytes = .ok text ↔ bytes = Utf8.encode text.toList := by
  rw [← Utf8.decode_eq_ok_iff]
  cases hdecode : Utf8.decode bytes with
  | ok text' => rw [bodyText_of_decode hdecode, if_neg Bool.false_ne_true, Except.ok.injEq,
      Except.ok.injEq]
  | error malformed =>
      rw [bodyText, hdecode]
      exact ⟨nofun, nofun⟩

/-- Blanks are taken away after the bytes were read, and nothing else is done to the text. -/
theorem bodyText_true :
    bodyText url true bytes = (bodyText url false bytes).map Text.trim := by
  cases hdecode : Utf8.decode bytes with
  | ok text =>
      rw [bodyText_of_decode hdecode, bodyText_of_decode hdecode]
      rfl
  | error malformed =>
      rw [bodyText, bodyText, hdecode]
      rfl

/-- The text of what the bytes of a page came to. -/
def textOf (url : String) (trim : Bool) : Except Failure Bytes → Except Failure String
  | .error failure => .error failure
  | .ok bytes => bodyText url trim bytes

theorem textOf_true (got : Except Failure Bytes) :
    textOf url true got = (textOf url false got).map Text.trim := by
  cases got with
  | error failure => rfl
  | ok bytes => exact bodyText_true

/-! ## 2. Operations -/

/-- Two operations in which the same happens, whatever their results. -/
structure Alike {α β : Type} (x : Ran σ α) (y : Ran σ β) : Prop where
  events : x.events = y.events
  moment : x.moment = y.moment
  pulled : x.pulled = y.pulled

theorem fetchText_of_fetch {got : Ran σ (Except Failure Bytes)}
    (h : a.fetch .get url [] m = .ok got) (trim : Bool) :
    ∃ ran, a.fetchText url trim m = .ok ran ∧ ran.result = textOf url trim got.result ∧
      Alike ran got := by
  rw [fetchText, h]
  refine ⟨_, rfl, ?_, ⟨rfl, rfl, rfl⟩⟩
  dsimp only
  cases got.result <;> rfl

/-- A page whose replies are no crash is fetched, and no failure of it is one of decoding. -/
theorem exists_fetch
    (steady : ∀ k report, (a.transport.replies (a.request method url payload) a.settings.timeout
      m.state k).outcome ≠ .crashed report) :
    ∃ got, a.fetch method url payload m = .ok got ∧
      ∀ report, got.result ≠ .error (.decode report) := by
  obtain ⟨result, sent, hresult⟩ := a.plan.exists_settled_of_steady a.transport _ m steady
  obtain ⟨ran, hran, rfl, -⟩ := send_of_settled hresult
  obtain ⟨got, notices, hgot, hbytes, -⟩ := fetch_of_send hran
  refine ⟨got, hgot, fun report hreport => ?_⟩
  rw [hbytes] at hreport
  cases hsent : ran.result with
  | error failure =>
      rw [hsent] at sent hreport
      cases hreport
      obtain ⟨url, fault, h⟩ := sent _ rfl
      cases h
  | ok response =>
      rw [hsent] at hreport
      cases Response.unread_of_readInto (Reading.result_of_bytes hreport)

/-- The same agent over a transport that cuts bodies in another way. -/
def recutting (a : Agent σ) (swap : Response → Body) : Agent σ :=
  { a with transport := a.transport.withBodies swap }

/-- Whatever stands in the bodies, all else is the same when a request is sent. -/
theorem send_recutting (swap : Response → Body) {ran : Ran σ (Except Failure Response)}
    (h : a.send method url payload m = .ok ran) :
    (a.recutting swap).send method url payload m =
      .ok ⟨ran.result.map (Response.withBody swap), ran.moment,
        ran.events.map (Event.withBodies swap), ran.pulled⟩ := by
  have hrun : (a.recutting swap).plan.execute (a.recutting swap).transport
      ((a.recutting swap).request method url payload) m =
        (a.plan.execute a.transport (a.request method url payload) m).withBodies swap :=
    a.plan.execute_withBodies swap _ a.transport m
  unfold send at h ⊢
  rw [hrun]
  generalize a.plan.execute a.transport (a.request method url payload) m = run at h
  obtain ⟨ending, after, events, pulled⟩ := run
  cases ending with
  | crashed report => cases h
  | settled result =>
      cases h
      cases result <;> rfl

/-- **How bodies are cut has no part in what is fetched**, nor in when it is. -/
theorem fetch_recut {swap : Response → Body} (recut : ∀ r : Response, r.body.Recut (swap r))
    {got : Ran σ (Except Failure Bytes)} (h : a.fetch method url payload m = .ok got) :
    ∃ got', (a.recutting swap).fetch method url payload m = .ok got' ∧
      got'.result = got.result ∧ got'.moment = got.moment ∧
      got'.events = got.events.map (Event.withBodies swap) := by
  cases hsend : a.send method url payload m with
  | error abort =>
      rw [fetch, hsend] at h
      cases h
  | ok ran =>
      rw [fetch, hsend] at h
      rw [fetch, send_recutting swap hsend]
      dsimp only at h ⊢
      cases hresult : ran.result with
      | error failure =>
          rw [hresult] at h
          cases h
          exact ⟨_, rfl, rfl, rfl, rfl⟩
      | ok response =>
          rw [hresult] at h
          cases h
          have htold : (response.withBody swap).told a.settings.failOnHttpError = _ :=
            Response.told_of_recut (recut response)
          refine ⟨_, rfl, ?_, rfl, ?_⟩
          · dsimp only
            rw [Response.bytes_readToMemory, Response.bytes_readToMemory, ← htold]
            exact congrArg (fun bytes => Except.map (fun _ => bytes) _) (recut response).same
          · dsimp only
            rw [Response.notices_readToMemory, Response.notices_readToMemory, ← htold,
              List.map_append, List.map_map]
            rfl

/-! ## 3. Texts -/

/-- A page as its bytes, as a text, and as a text without the blanks around it. -/
structure Decoded (url : String) (got : Ran σ (Except Failure Bytes))
    (whole bare : Ran σ (Except Failure String)) : Prop where
  /-- The same happens in all three: the same calls, waits and notices, at the same times, and as
      many items come off the network. -/
  alike : Alike whole got ∧ Alike bare got
  /-- Where there are no bytes, there is no text for the same reason, which is none of decoding. -/
  failed : ∀ failure, got.result = .error failure →
    whole.result = .error failure ∧ bare.result = .error failure ∧
      ∀ report, failure ≠ .decode report
  /-- A text is what bytes are written with. -/
  text : ∀ bytes, got.result = .ok bytes →
    ∀ t, whole.result = .ok t ↔ bytes = Utf8.encode t.toList
  /-- There is a text just where the bytes are well-formed. -/
  wellFormed : ∀ bytes, got.result = .ok bytes →
    ((∃ t, whole.result = .ok t) ↔ Utf8.WellFormed bytes)
  /-- Bytes that are not are a failure of decoding, which tells of the URL. -/
  malformed : ∀ bytes, got.result = .ok bytes → ¬ Utf8.WellFormed bytes →
    ∃ malformed : Utf8.Malformed, whole.result =
      .error (.decode ("response from " ++ url ++ " is not UTF-8: " ++ malformed.message))
  /-- Where there is a text, there is one without the blanks around it. No other stands between
      blanks, or nothing, and neither begins nor ends with one. -/
  trimmed : ∀ t, whole.result = .ok t → ∃ u, bare.result = .ok u ∧
    ∀ v : String, (Text.Bare v.toList ∧ ∃ front back, Text.AllBlank front ∧ Text.AllBlank back ∧
      t.toList = front ++ v.toList ++ back) ↔ v = u
  /-- Where there is none, it is for the same reason. -/
  untrimmed : ∀ failure, bare.result = .error failure ↔ whole.result = .error failure

theorem decoded_of_textOf {got : Ran σ (Except Failure Bytes)}
    {whole bare : Ran σ (Except Failure String)}
    (other : ∀ report, got.result ≠ .error (.decode report))
    (hwhole : whole.result = textOf url false got.result)
    (hbare : bare.result = textOf url true got.result)
    (alike : Alike whole got ∧ Alike bare got) : Decoded url got whole bare where
  alike := alike
  failed failure h := by
    rw [h] at hwhole hbare
    refine ⟨hwhole, hbare, ?_⟩
    rintro report rfl
    exact other report h
  text bytes h t := by
    rw [hwhole, h]
    exact bodyText_eq_ok_iff
  wellFormed bytes h := by
    rw [hwhole, h, ← Utf8.exists_decode_iff_wellFormed]
    refine exists_congr fun t => ?_
    rw [Utf8.decode_eq_ok_iff]
    exact bodyText_eq_ok_iff
  malformed bytes h hbytes := by
    rw [hwhole, h]
    exact bodyText_of_malformed hbytes
  trimmed t h := by
    refine ⟨Text.trim t, ?_, fun v => ?_⟩
    · rw [hbare, textOf_true, ← hwhole, h]
      rfl
    · rw [← Text.trim_eq_iff]
      exact eq_comm
  untrimmed failure := by
    rw [hbare, textOf_true, ← hwhole]
    cases whole.result with
    | error failure' => rfl
    | ok t => exact ⟨nofun, nofun⟩

/-- **Decoding.** For any agent and URL, over any transport whose replies are no crash, however
    often the request is attempted and whatever becomes of it: a page as a text is its bytes, read
    as UTF-8 if they are well-formed, and without the blanks around it if they are not wanted. How
    the bodies are cut into chunks is not seen in it. -/
theorem decoding (a : Agent σ) (url : String) (m : Moment σ)
    (steady : ∀ k report, (a.transport.replies (.get url) a.settings.timeout
      m.state k).outcome ≠ .crashed report) :
    ∃ got whole bare,
      a.fetch .get url [] m = .ok got ∧ a.fetchText url false m = .ok whole ∧
      a.fetchText url true m = .ok bare ∧ Decoded url got whole bare ∧
      ∀ swap : Response → Body, (∀ r : Response, r.body.Recut (swap r)) →
        ∀ trim ran, a.fetchText url trim m = .ok ran →
          ∃ ran', (a.recutting swap).fetchText url trim m = .ok ran' ∧
            ran'.result = ran.result ∧ ran'.moment = ran.moment ∧
            ran'.events = ran.events.map (Event.withBodies swap) := by
  obtain ⟨got, hgot, other⟩ := @exists_fetch σ a .get url [] m steady
  obtain ⟨whole, hwhole, htext, halike⟩ := fetchText_of_fetch hgot false
  obtain ⟨bare, hbare, htext', halike'⟩ := fetchText_of_fetch hgot true
  refine ⟨got, whole, bare, hgot, hwhole, hbare,
    decoded_of_textOf other htext htext' ⟨halike, halike'⟩, fun swap recut trim ran hran => ?_⟩
  obtain ⟨got', hgot', hresult, hmoment, hevents⟩ := fetch_recut recut hgot
  obtain ⟨ran₁, hran₁, htext₁, halike₁⟩ := fetchText_of_fetch hgot trim
  obtain ⟨ran₂, hran₂, htext₂, halike₂⟩ := fetchText_of_fetch hgot' trim
  obtain rfl := Except.ok.inj (hran₁.symm.trans hran)
  refine ⟨ran₂, hran₂, ?_, ?_, ?_⟩
  · rw [htext₂, htext₁, hresult]
  · rw [halike₂.moment, halike₁.moment, hmoment]
  · rw [halike₂.events, halike₁.events, hevents]

/-- The second reply is a page of three characters between blanks of two and of three bytes. It is
    the same text without them where each byte of it comes in a chunk of its own. -/
theorem decoding_of_scattered_page :
    let page : Body := .held (some [0xC2, 0xA0, 0x61, 0x20, 0xE2, 0x82, 0xAC, 0xE3, 0x80, 0x80])
    let scattered : Body := .arriving [.bytes [0xC2], .bytes [0xA0], .bytes [0x61], .bytes [0x20],
      .bytes [0xE2], .bytes [0x82], .bytes [0xAC], .bytes [0xE3], .bytes [0x80], .bytes [0x80]]
    let script := Script.ofTable [("http://a/",
      [⟨none, .failed { kind := .connect, report := "refused" }⟩,
        ⟨none, .answered { status := .ok, url := "http://a/", body := page }⟩])]
    let a : Agent Script.Served := ⟨{ maxRetries := 2 }, script.transport⟩
    let m : Moment Script.Served := ⟨0, Script.Served.none⟩
    let swap := fun r : Response => if r.body = page then scattered else r.body
    (∀ k report, (a.transport.replies (.get "http://a/") a.settings.timeout
        m.state k).outcome ≠ .crashed report) ∧
      (∀ r : Response, r.body.Recut (swap r)) ∧
      ∃ bare, (a.recutting swap).fetchText "http://a/" true m = .ok bare ∧
        bare.result.toOption = some "a €" := by
  intro page scattered script a m swap
  have steady : ∀ k report, (a.transport.replies (.get "http://a/") a.settings.timeout
      m.state k).outcome ≠ .crashed report := by
    rw [script.foretold.replies_eq]
    exact Script.steady_ofTable (by simp) "http://a/"
  have recut : ∀ r : Response, r.body.Recut (swap r) := by
    intro r
    by_cases hr : r.body = page
    · rw [show swap r = scattered from if_pos hr, hr]
      exact ⟨rfl, rfl⟩
    · rw [show swap r = r.body from if_neg hr]
      exact ⟨rfl, rfl⟩
  obtain ⟨got, whole, bare, -, -, hbare, -, hrecut⟩ := decoding a "http://a/" m steady
  obtain ⟨bare', hbare', hresult, -⟩ := hrecut swap recut true bare hbare
  have htext : (a.fetchText "http://a/" true m).map (·.result.toOption) = .ok (some "a €") := by
    decide +kernel
  rw [hbare] at htext
  have htext : bare.result.toOption = some "a €" := Except.ok.inj htext
  exact ⟨steady, recut, bare', hbare', by rw [hresult, htext]⟩

end Agent

end Courier
