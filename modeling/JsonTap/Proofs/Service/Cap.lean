import JsonTap.Proofs.Config.Size
import JsonTap.Proofs.Web.Chunking
import JsonTap.Proofs.Web.Rejection
import JsonTap.Service

/-!
# The cap that a size stands for

A size in the settings denotes an exact number of bytes. The application that is made from it
refuses every body above that number exactly if the cap is not zero and not above it
(`cap_of_size`): a cap of zero is none, and a greater cap lets some bodies through. Without a unit
the cap is the number itself; with one it is rounded, in either direction.
-/

namespace JsonTap.Service

open Config (Denotes Document ServerSettings SizeUnit bytesPer)
open Web (Above Comes Condition Connection Delivers Fits Message Moment Request script raised?)

/-- A body of more than `q` octets is refused for its size, in whatever messages it comes and
whatever happens on other connections. -/
def RefusesAbove (s : ServerSettings) (q : ℚ) : Prop :=
  ∀ (run : List Moment) (c : Connection) (r : Request) (ms : List Message) (body : List Octet),
    r.ReachesHandler → script c run = .request r :: ms.map .message → Delivers ms body →
    q < body.length →
    ∃ target received, r.target = .ok target ∧
      raised? (app s).cap ms = some (.bodyTooLarge (app s).cap received) ∧
      Condition.tooLarge.Shows r.method target body ((app s).footprint c run)

/-- A body above the cap is refused before it is read to its end. -/
theorem refused_of_above {cap : Int} {run : List Moment} {c : Connection} {r : Request}
    {ms : List Message} {body : List Octet} (hreach : r.ReachesHandler)
    (hscript : script c run = .request r :: ms.map .message) (hbody : Delivers ms body)
    (habove : Above cap body) :
    ∃ target received, r.target = .ok target ∧
      raised? cap ms = some (.bodyTooLarge cap received) ∧
      Condition.tooLarge.Shows r.method target body ((Web.App.create cap).footprint c run) := by
  obtain ⟨target, ht⟩ := hreach.target
  obtain ⟨b, hread, hcomes⟩ := hbody.comes cap
  obtain ⟨now, hfoot⟩ := Web.footprint_of_end cap hreach.route ht hscript hread
  have hlarge := hcomes.condition.1.mpr habove
  obtain ⟨received, houtcome, -, -⟩ := hcomes.received hlarge
  have hshows := Web.ended_shows r target now hcomes.about
  rw [hlarge] at hshows
  refine ⟨target, received, ht, ?_, ?_⟩
  · rw [raised?, hread]
    dsimp only
    rw [houtcome]
    rfl
  · rw [hfoot]
    exact hshows

/-- A body that fits is not refused for its size. -/
theorem raised?_of_fits {cap : Int} {ms : List Message} {body : List Octet}
    (hbody : Delivers ms body) (hfits : Fits cap body) (received : Nat) :
    raised? cap ms ≠ some (.bodyTooLarge cap received) := by
  obtain ⟨b, hread, hcomes⟩ := hbody.comes cap
  rw [raised?, hread]
  dsimp only
  intro hfault
  generalize Web.Exchange.conclude cap b = o at hcomes hfault
  cases hcomes with
  | ok => cases hfault
  | malformed => cases congrArg Fault.kind (Option.some.inj hfault)
  | tooLarge hnot => exact hnot hfits

def oneChunk (body : List Octet) : List Moment :=
  [⟨0, 7, .request Web.localRequest⟩, ⟨1, 7, .message (.chunk body false)⟩]

/-- All bodies above a bound are refused exactly if the cap is not zero, and not above the bound. -/
theorem refusesAbove_iff {s : ServerSettings} {q : ℚ} (hq : 0 ≤ q) :
    RefusesAbove s q ↔ 0 < s.maxBodySize ∧ (s.maxBodySize : ℚ) ≤ q := by
  constructor
  · intro h
    -- a body that is above the number and fits would have to be refused
    have hnone : ∀ n : Nat, q < n → ¬ (s.maxBodySize = 0 ∨ n ≤ s.maxBodySize) := by
      intro n hn hfits
      obtain ⟨body, hlength⟩ : ∃ body : List Octet, body.length = n :=
        ⟨List.replicate n (Utf8.octet 0), List.length_replicate⟩
      have hbody : Delivers [.chunk body false] body := .last body []
      obtain ⟨target, received, -, hfault, -⟩ := h (oneChunk body) 7 Web.localRequest _ body
        Web.reachesHandler_localRequest rfl hbody (hlength ▸ hn)
      refine raised?_of_fits hbody (Web.fits_of_le ?_) received hfault
      rw [hlength]
      show (s.maxBodySize : Int) = 0 ∨ (n : Int) ≤ s.maxBodySize
      exact_mod_cast hfits
    refine ⟨?_, ?_⟩
    · by_contra hzero
      have hlt := Nat.lt_floor_add_one q
      exact hnone (⌊q⌋₊ + 1) (by exact_mod_cast hlt) (.inl (Nat.eq_zero_of_not_pos hzero))
    · by_contra hgreater
      exact hnone s.maxBodySize (not_le.mp hgreater) (.inr (Nat.le_refl _))
  · rintro ⟨hpos, hle⟩ run c r ms body hreach hscript hbody hlong
    refine refused_of_above hreach hscript hbody ⟨?_, ?_, ?_⟩
    · show (s.maxBodySize : Int) ≠ 0
      omega
    · show (s.maxBodySize : Int) < body.length
      exact_mod_cast hle.trans_lt hlong
    · rintro rfl
      exact absurd hlong (not_lt.mpr hq)

/-- **What becomes of a size.** Every size that is taken denotes a number of bytes. Bodies above it
are all refused exactly if the cap is positive and not above it. The cap is zero for less than one
byte only. Without a unit it is the number itself; with one it is the number before the unit,
rounded to binary64, times the unit, and cut to whole bytes. -/
theorem cap_of_size (d : Document) (s : ServerSettings) (h : d.serverSettings = .ok s) :
    (∃ unit v, Denotes (d.value .server "max_body_size") unit v) ∧
      ∀ unit v, Denotes (d.value .server "max_body_size") unit v → 0 < v →
        (RefusesAbove s (v * bytesPer unit) ↔
          0 < s.maxBodySize ∧ (s.maxBodySize : ℚ) ≤ v * bytesPer unit) ∧
        (s.maxBodySize = 0 → v * bytesPer unit < 1) ∧
        match unit with
        | none => (s.maxBodySize : ℚ) = v
        | some u => ∃ x : Double, x.IsNearest v ∧ s.maxBodySize = ⌊x.value * u.bytes⌋₊ := by
  have hparse := Config.parseSize?_of_serverSettings h
  refine ⟨Config.denotes_of_parseSize? hparse, ?_⟩
  intro unit v hdenotes hpos
  have hq : 0 ≤ v * bytesPer unit := mul_nonneg hpos.le (Nat.cast_nonneg _)
  refine ⟨refusesAbove_iff hq, ?_⟩
  cases unit with
  | none =>
    have hcap : v = s.maxBodySize := by
      have hv := Config.parseSize?_plain hdenotes hparse
      exact_mod_cast hv
    refine ⟨?_, hcap.symm⟩
    intro hzero
    rw [hcap, hzero, Nat.cast_zero] at hpos
    exact absurd hpos (lt_irrefl 0)
  | some u =>
    obtain ⟨x, hx, hn⟩ := Config.parseSize?_scaled hdenotes hpos hparse
    have hcap : s.maxBodySize = ⌊x.value * u.bytes⌋₊ := by exact_mod_cast hn
    refine ⟨?_, x, hx, hcap⟩
    intro hzero
    -- a size of one byte or more is not cut to nothing
    by_contra hone
    have hfloor := Config.one_le_floor hx (not_lt.mp hone)
    omega

/-! ### Sizes in kilobytes -/

def sizedDocument (size : Text) : Document where
  defaults := []
  sections := [("server",
    [("port", "1"), ("hosts", "::"), ("max_body_size", size), ("backlog", "1")])]

theorem value_sizedDocument (size : Text) :
    (sizedDocument size).value .server "max_body_size" = size := rfl

def sized (cap : Nat) : ServerSettings := ⟨1, [Text.ofString "::"], cap, 1⟩

/-- A decimal with the suffix of kilobytes denotes so many of them. -/
theorem denotes_kilobytes (size whole fraction : Text) (digits places : Nat)
    (hsize : Unicode.upper (Unicode.strip size) =
      whole ++ ('.' : CodePoint) :: fraction ++ SizeUnit.kilobyte.suffix)
    (hplain : Written.Plain (whole ++ ('.' : CodePoint) :: fraction)
      (whole ++ ('.' : CodePoint) :: fraction))
    (hwhole : Written.Digits whole ∧ whole ≠ [])
    (hfraction : Written.Digits fraction ∧ fraction.length = places)
    (hdigits : Text.digitsValue (whole ++ fraction) = digits) :
    Denotes ((sizedDocument size).value .server "max_body_size") (some .kilobyte)
      (digits / 10 ^ places) := by
  rw [value_sizedDocument, ← hdigits, ← hfraction.2]
  exact Config.denotes_point hsize hplain ⟨hwhole.1, hfraction.1⟩ hwhole.2

theorem cap_of_size_fraction :
    (sizedDocument "2.5kb").serverSettings = .ok (sized 2560) ∧
      Denotes ((sizedDocument "2.5kb").value .server "max_body_size") (some .kilobyte)
        ((25 : Nat) / 10 ^ 1) ∧
      RefusesAbove (sized 2560) ((25 : Nat) / 10 ^ 1 * 1024) := by
  have hs : (sizedDocument "2.5kb").serverSettings = .ok (sized 2560) :=
    Config.toOption_eq_some_iff.mp (by decide +kernel)
  have hdenotes := denotes_kilobytes "2.5kb" "2" "5" 25 1 (by decide +kernel) (by decide +kernel)
    (by decide +kernel) (by decide +kernel) (by decide +kernel)
  refine ⟨hs, hdenotes, ?_⟩
  have hiff := ((cap_of_size _ _ hs).2 _ _ hdenotes (by norm_num)).1
  refine hiff.mpr ⟨by decide, ?_⟩
  norm_num [sized, bytesPer, SizeUnit.bytes]

/-- A cap of less than a byte is none, and a cap with more digits than binary64 has is too great. -/
theorem sizes_let_bodies_through :
    (∃ s, (sizedDocument "0.0001KB").serverSettings = .ok s ∧
      Denotes ((sizedDocument "0.0001KB").value .server "max_body_size") (some .kilobyte)
        ((1 : Nat) / 10 ^ 4) ∧
      s.maxBodySize = 0 ∧ ¬ RefusesAbove s ((1 : Nat) / 10 ^ 4 * 1024)) ∧
    ∃ s, (sizedDocument "9007199254740995.KB").serverSettings = .ok s ∧
      Denotes ((sizedDocument "9007199254740995.KB").value .server "max_body_size")
        (some .kilobyte) ((9007199254740995 : Nat) / 10 ^ 0) ∧
      ¬ RefusesAbove s ((9007199254740995 : Nat) / 10 ^ 0 * 1024) := by
  refine ⟨⟨sized 0, Config.toOption_eq_some_iff.mp (by decide +kernel), ?_, rfl, ?_⟩,
    ⟨sized 9223372036854779904, Config.toOption_eq_some_iff.mp (by decide +kernel), ?_, ?_⟩⟩
  · exact denotes_kilobytes "0.0001KB" "0" "0001" 1 4 (by decide +kernel) (by decide +kernel)
      (by decide +kernel) (by decide +kernel) (by decide +kernel)
  · rw [refusesAbove_iff (by norm_num)]
    exact fun h => absurd h.1 (by decide)
  · exact denotes_kilobytes "9007199254740995.KB" "9007199254740995" [] 9007199254740995 0
      (by decide +kernel) (by decide +kernel) (by decide +kernel) (by decide +kernel)
      (by decide +kernel)
  · rw [refusesAbove_iff (by norm_num)]
    refine fun h => absurd h.2 (not_le.mpr ?_)
    norm_num [sized]

end JsonTap.Service
