import InverterLink.Proofs.Command.Refusals
import InverterLink.Proofs.Service.Chunking
import InverterLink.Service.Connection

/-!
# What clients can say

A request is what stands between line ends, so there is none in it, whatever bytes it is read from.
A client can bring a text of its own into a reply in one way only, by a word that no request begins
with. It is a part of the line, so it has no line end either, although a lone carriage return or
line feed is not ruled out.

## Main definitions

* `Line.IsUnbroken`: what holds of the lines of a client.
* `Line.beforeEnded`: the lines that are answered.

## Main statements

* `LineBuffer.isUnbroken_of_mem_decode`: the lines that are found in chunks have no line end in
  them.
* `Request.endsIn_ofLine`: such a line is not refused with a line end in the message.
-/

namespace InverterLink

/-! ### Segments -/

section

variable {bytes segment behind : List UInt8}

/-- A byte string is its first segment, a line end and what stands behind it. -/
theorem append_of_cutLine? (h : cutLine? bytes = some (segment, behind)) :
    bytes = segment ++ 0x0D :: 0x0A :: behind := by
  induction bytes generalizing segment with
  | nil => cases h
  | cons byte bytes ih =>
    rw [cutLine?] at h
    split_ifs at h with hend
    · obtain ⟨rfl, hhead⟩ := hend
      obtain ⟨bytes, rfl⟩ := List.head?_eq_some_iff.mp hhead
      cases h
      rfl
    · obtain ⟨⟨first, behind'⟩, hcut, hsome⟩ := Option.map_eq_some_iff.mp h
      cases hsome
      rw [List.cons_append, ← ih hcut]

/-- Where no segment is found, there is no line end. -/
theorem not_infix_of_cutLine?_eq_none (h : cutLine? bytes = none) : ¬ [0x0D, 0x0A] <:+: bytes := by
  induction bytes with
  | nil => exact fun hinfix => absurd (List.infix_nil.mp hinfix) (List.cons_ne_nil _ _)
  | cons byte bytes ih =>
    rw [cutLine?] at h
    split_ifs at h with hend
    rw [List.infix_cons_iff, List.cons_prefix_cons]
    rintro (⟨rfl, hfeed⟩ | hbehind)
    · obtain ⟨rest, rfl⟩ := hfeed
      exact hend ⟨rfl, rfl⟩
    · exact ih (Option.map_eq_none_iff.mp h) hbehind

/-- **There is no line end in a segment.** -/
theorem not_infix_of_cutLine? (h : cutLine? bytes = some (segment, behind)) :
    ¬ [0x0D, 0x0A] <:+: segment := by
  refine not_infix_of_cutLine?_eq_none ?_
  by_contra hsome
  obtain ⟨⟨first, rest⟩, hcut⟩ := Option.ne_none_iff_exists'.mp hsome
  -- the first line end of the bytes would be inside of their first segment
  have hwhole := cutLine?_append_of_some hcut (0x0D :: 0x0A :: behind)
  rw [← append_of_cutLine? h, h] at hwhole
  obtain ⟨rfl, -⟩ := Prod.mk.inj (Option.some.inj hwhole)
  have := LineBuffer.length_of_cutLine? hcut
  omega

end

/-! ### Lines -/

namespace Line

/-- A line that is no request, or a request without a line end in it. -/
def IsUnbroken : Line → Prop
  | request text => ¬ HasLineEnd text
  | oversized => True
  | ended => True

/-- The lines before the first one that ends the connection. -/
def beforeEnded (lines : List Line) : List Line :=
  lines.takeWhile (· ≠ ended)

theorem mem_untilEnded_of_mem_beforeEnded {lines : List Line} {line : Line}
    (h : line ∈ beforeEnded lines) : line ∈ untilEnded lines := by
  induction lines with
  | nil => exact h
  | cons first lines ih =>
    by_cases hfirst : first = ended
    · rw [beforeEnded, List.takeWhile_cons_of_neg (by simpa using hfirst)] at h
      exact absurd h List.not_mem_nil
    · rw [beforeEnded, List.takeWhile_cons_of_pos (by simpa using hfirst), List.mem_cons] at h
      rw [untilEnded_cons hfirst, List.mem_cons]
      exact h.imp_right ih

/-- What is read from bytes without a line end has none. -/
theorem isUnbroken_request {bytes : List UInt8} (h : ¬ [0x0D, 0x0A] <:+: bytes) :
    (request (Utf8.decodeLossy bytes)).IsUnbroken := fun hend =>
  h (Utf8.infix_of_decodeLossy hend)

theorem isUnbroken_ofSegment {segment : List UInt8} (h : ¬ [0x0D, 0x0A] <:+: segment)
    (isCut : Bool) : (ofSegment isCut segment).IsUnbroken := by
  rw [ofSegment]
  split_ifs
  · trivial
  · exact isUnbroken_request h

theorem isUnbroken_of_mem_ofTail {tail : List UInt8} (h : ¬ [0x0D, 0x0A] <:+: tail) {line : Line}
    (hline : line ∈ ofTail tail) : line.IsUnbroken := by
  rw [ofTail] at hline
  split_ifs at hline
  · exact absurd hline List.not_mem_nil
  · obtain rfl := List.mem_singleton.mp hline
    trivial
  · obtain rfl := List.mem_singleton.mp hline
    exact isUnbroken_request h

/-- The lines of a byte string are unbroken. -/
theorem isUnbroken_of_mem_ofBytes {isCut : Nat → Bool} {bytes : List UInt8} {line : Line}
    (h : line ∈ ofBytes isCut bytes) : line.IsUnbroken := by
  induction hlength : bytes.length using Nat.strongRecOn generalizing bytes isCut with
  | _ length ih =>
    subst hlength
    by_cases hopen : bytes.head? = some endOfTransmission
    · rw [ofBytes_of_ended hopen] at h
      obtain rfl := List.mem_singleton.mp h
      trivial
    obtain hcut | ⟨⟨segment, behind⟩, hcut⟩ := Option.eq_none_or_eq_some (cutLine? bytes)
    · rw [ofBytes_of_none hopen hcut] at h
      exact isUnbroken_of_mem_ofTail (not_infix_of_cutLine?_eq_none hcut) h
    · have hshorter := LineBuffer.length_of_cutLine? hcut
      rw [ofBytes_of_some hopen hcut, List.mem_cons] at h
      obtain rfl | hbehind := h
      · exact isUnbroken_ofSegment (not_infix_of_cutLine? hcut) _
      · exact ih behind.length (by omega) hbehind rfl

end Line

/-- **The lines that are found in chunks are unbroken**, as far as they are answered. -/
theorem LineBuffer.isUnbroken_of_mem_decode {chunks : List (List UInt8)} {line : Line}
    (h : line ∈ Line.beforeEnded (decode {} chunks)) : line.IsUnbroken := by
  have huntil := Line.mem_untilEnded_of_mem_beforeEnded h
  rw [untilEnded_decode_empty] at huntil
  exact Line.isUnbroken_of_mem_ofBytes huntil

namespace Request

/-! ### Requests -/

variable {line : List Char} {word : String}

/-- A word is a part of its line. -/
theorem infix_of_mem_words (h : word ∈ words line) : word.toList <:+: line := by
  obtain ⟨part, hpart, rfl⟩ := List.mem_map.mp h
  rw [String.toList_ofList]
  exact isInfix_of_mem_splitOn (List.mem_of_mem_filter hpart)

theorem isExternal_wrongTokenCount (expected actual : Nat) :
    (Error.argument (.wrongTokenCount expected actual)).IsExternal := by
  refine ⟨nofun, ?_⟩
  rw [Error.message_argument, ArgumentError.message.eq_def]
  simp only [isPlain_toList_append]
  exact ⟨⟨⟨by decide, isPlain_toString expected⟩, by decide⟩, isPlain_toString actual⟩

theorem endsIn_single (args : List String) :
    EndsIn (single args) (fun _ => True) Error.IsExternal := by
  rw [single.eq_def]
  split
  · trivial
  · exact isExternal_wrongTokenCount 1 _

theorem endsIn_ofVersion (text : String) :
    EndsIn (ofVersion text) (fun _ => True) Error.IsExternal := by
  rw [ofVersion]
  split_ifs
  · trivial
  · exact (Error.isRefusal_invalid (by decide)).isExternal

theorem endsIn_ofName (name : String) :
    EndsIn (Format.ofName name) (fun _ => True) Error.IsExternal := by
  rw [Format.ofName]
  split
  · trivial
  · exact (Error.isRefusal_invalid (by decide)).isExternal

/-- A word that no request begins with is shown as it is. -/
theorem not_hasLineEnd_unknownToken (h : ¬ HasLineEnd word.toList) :
    ¬ HasLineEnd (Error.argument (.unknownToken word)).message.toList := by
  have hstart : IsPlain "invalid token: ".toList := by decide
  rw [Error.message_argument, ArgumentError.message.eq_def]
  dsimp only
  rw [String.toList_append]
  exact fun hend => h (hstart.hasLineEnd_append.mp hend)

/-- **What making a request of words ends in**: a refusal shows no line end unless a word has
one. -/
theorem endsIn_ofWords {words : List String} (h : ∀ word ∈ words, ¬ HasLineEnd word.toList) :
    EndsIn (ofWords words) (fun _ => True) fun e => ¬ HasLineEnd e.message.toList := by
  have hexternal {x : Except Error Request} (hx : EndsIn x (fun _ => True) Error.IsExternal) :
      EndsIn x (fun _ => True) fun e => ¬ HasLineEnd e.message.toList :=
    hx.mono (fun _ _ => trivial) fun _ he => he.isPlain.not_hasLineEnd
  rw [ofWords.eq_def]
  split
  · exact hexternal ((endsIn_single _).bind fun text _ => endsIn_ofVersion text)
  · exact hexternal
      ((endsIn_single _).bind fun name _ => (endsIn_ofName name).bind fun _ _ => trivial)
  · exact (isExternal_wrongTokenCount 1 0).isPlain.not_hasLineEnd
  · exact hexternal ((Command.endsIn_ofRequest _ _).bind fun _ _ => trivial)
  · exact IsPlain.not_hasLineEnd (by decide)
  · exact not_hasLineEnd_unknownToken (h _ List.mem_cons_self)
  · exact not_hasLineEnd_unknownToken isPlain_nil.not_hasLineEnd

/-- **A line without a line end** is not refused with one in the message. -/
theorem endsIn_ofLine (h : ¬ HasLineEnd line) :
    EndsIn (ofLine line) (fun _ => True) fun e => ¬ HasLineEnd e.message.toList :=
  endsIn_ofWords fun _ hword hend => h (hend.trans (infix_of_mem_words hword))

end Request

end InverterLink
