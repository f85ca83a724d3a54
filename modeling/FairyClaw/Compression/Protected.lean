import FairyClaw.Compression.ExecuteHook
import FairyClaw.Foundation.Subsequence

/-! # What compression leaves alone

Through every stage the history consists of the beginning that a sub-session protects,
items derived in order from the unprotected items, and the latest turn
(`FairyClaw.Pieces`). The protected ends keep all but their images in data URLs
(`FairyClaw.ItemKept`). So the hook's output ends with the latest turn, and begins, in a
sub-session, with the history up to the first user message
(`FairyClaw.compression_protects`).
-/

namespace FairyClaw

open Foundation

/-! ## Changes of an item -/

/-- A segment stays, or is an image with a data URL that another image replaces. -/
inductive SegmentKept : ContentSegment → ContentSegment → Prop
  | same (segment : ContentSegment) : SegmentKept segment segment
  | recompressed {segment : ContentSegment} {url : String} (isImage : segment.type = .imageUrl)
      (shows : segment.url? = some url) (isData : startsWith url "data:image/")
      (compressedUrl : String) :
      SegmentKept segment (ContentSegment.imageUrlSegment compressedUrl)

/-- An item stays but for images with data URLs. -/
inductive ItemKept : ChatHistoryItem → ChatHistoryItem → Prop
  | same (item : ChatHistoryItem) : ItemKept item item
  | recompressed {role : SessionMessageRole} {segments rebuilt : List ContentSegment}
      (kept : List.Forall₂ SegmentKept segments rebuilt) :
      ItemKept (.block { role := role, body := .segments segments })
        (.block { role := role, body := .segments rebuilt })

/-- A text stays, or is cut short with an omission mark. -/
inductive Clamped (text : String) : String → Prop
  | same : Clamped text text
  | cut (count : Nat) :
      Clamped text (rstrip (String.ofList (text.toList.take count)) ++ "\n...[truncated]")

/-- What the stages make of an item: they replace images, clamp texts, and unload images. -/
inductive Derived : ChatHistoryItem → ChatHistoryItem → Prop
  | kept {origin item : ChatHistoryItem} (kept : ItemKept origin item) : Derived origin item
  | clampedRound {origin : ChatHistoryItem} {round : ToolCallRound} {toolResult argumentsJson : String}
      (derived : Derived origin (.round round)) (result : Clamped round.toolResult toolResult)
      (arguments : Clamped round.argumentsJson argumentsJson) :
      Derived origin
        (.round { round with toolResult := toolResult, argumentsJson := argumentsJson })
  | clampedText {origin : ChatHistoryItem} {block : SessionMessageBlock} {text : String}
      (derived : Derived origin (.block block)) (assistant : block.role = .assistant)
      (clamped : Clamped block.asPlainText text) (changed : text ≠ block.asPlainText) :
      Derived origin (.block { role := block.role, body := .text text })
  | unloaded {origin : ChatHistoryItem} {role : SessionMessageRole} {block : SessionMessageBlock}
      {segments : List ContentSegment} {stays : ContentSegment → Bool} {placeholder : String}
      (derived : Derived origin (.block { role := role, body := .segments segments }))
      (images : ∀ segment ∈ segments, stays segment = false → segment.type = .imageUrl)
      (rebuilt : SessionMessageBlock.fromSegments role
        (segments.filter stays ++ [ContentSegment.textSegment placeholder]) = some block) :
      Derived origin (.block block)

/-- The two items are both rounds, or both blocks of one role. -/
def SameKind (first second : ChatHistoryItem) : Prop :=
  first.isRound = second.isRound ∧ first.isUserBlock = second.isUserBlock

/-- A message that is built has the role it was given. -/
theorem fromSegments_role {role : SessionMessageRole} {segments : List ContentSegment}
    {block : SessionMessageBlock}
    (built : SessionMessageBlock.fromSegments role segments = some block) : block.role = role :=
  (SessionMessageBlock.fromSegments_content built).1

/-- A derived item is of the kind of its origin. -/
theorem Derived.sameKind {origin item : ChatHistoryItem} (derived : Derived origin item) :
    SameKind origin item := by
  induction derived with
  | kept kept => cases kept <;> exact ⟨rfl, rfl⟩
  | clampedRound _ _ _ ih => exact ih
  | clampedText _ _ _ _ ih => exact ih
  | unloaded _ _ rebuilt ih =>
      refine ⟨ih.1, ih.2.trans ?_⟩
      simp [ChatHistoryItem.isUserBlock, fromSegments_role rebuilt]

/-- A truncated text is clamped. -/
theorem truncateText_clamped (text : String) (maxChars : Int) :
    Clamped text (truncateText text maxChars) := by
  unfold truncateText
  split
  · exact .same
  · exact .cut maxChars.toNat

variable (env : CompressionEnv) (config : CompressionConfig)

/-- A segment is kept, or is an image made smaller. -/
theorem compressSegment_kept (segment : ContentSegment) :
    SegmentKept segment ((compressSegment env config segment).getD segment) := by
  unfold compressSegment
  split
  · exact .same segment
  · next isImage =>
      split
      · exact .same segment
      · next url shows =>
          split
          · exact .same segment
          · next isData =>
              split
              · exact .same segment
              · split
                · exact .recompressed (by simpa using isImage) shows (by simpa using isData) _
                · exact .same segment

/-- Only images are made smaller. -/
theorem compressSegment_isImage {segment compressed : ContentSegment}
    (changed : compressSegment env config segment = some compressed) :
    compressed.type = .imageUrl := by
  unfold compressSegment at changed
  split at changed
  · cases changed
  · split at changed
    · cases changed
    · split at changed
      · cases changed
      · split at changed
        · cases changed
        · split at changed
          · cases changed
            rfl
          · cases changed

/-- Segments with an image become a message of these segments. -/
theorem fromSegments_of_image {role : SessionMessageRole} {segments : List ContentSegment}
    {segment : ContentSegment} (member : segment ∈ segments) (isImage : segment.type = .imageUrl) :
    SessionMessageBlock.fromSegments role segments =
      some { role := role, body := .segments segments } := by
  match segments with
  | [] => cases member
  | [only] =>
      rw [List.mem_singleton.mp member] at isImage
      simp [SessionMessageBlock.fromSegments, isImage]
  | first :: second :: rest => rfl

/-- Making images smaller keeps the item. -/
theorem compressItem_kept (item : ChatHistoryItem) :
    ItemKept item (compressItem env config item) := by
  cases item with
  | round round => exact .same _
  | block block =>
      obtain ⟨role, body⟩ := block
      cases body with
      | text content => exact .same _
      | segments segments =>
          simp only [compressItem, compressMessageImages]
          split
          · next changed =>
              obtain ⟨segment, member, isChanged⟩ := List.any_eq_true.mp changed
              obtain ⟨compressed, isCompressed⟩ := Option.isSome_iff_exists.mp isChanged
              have inside : compressed ∈ segments.map fun segment =>
                  (compressSegment env config segment).getD segment :=
                List.mem_map.mpr ⟨segment, member, by rw [isCompressed]; rfl⟩
              rw [fromSegments_of_image inside (compressSegment_isImage env config isCompressed)]
              refine .recompressed (List.forall₂_map_right_iff.mpr ?_)
              exact List.forall₂_same.mpr fun segment _ => compressSegment_kept env config segment
          · exact .same _

/-- A truncated item is derived from its origin. -/
theorem truncateItem_derived {origin item : ChatHistoryItem} (kept : ItemKept origin item) :
    Derived origin (truncateItem config item) := by
  have derived : Derived origin item := .kept kept
  cases item with
  | round round =>
      exact .clampedRound derived (truncateText_clamped _ _) (truncateText_clamped _ _)
  | block block =>
      unfold truncateItem
      dsimp only
      split
      · next assistant =>
          unfold truncateAssistantMessage
          dsimp only
          split
          · exact derived
          · next changed =>
              exact .clampedText derived assistant (truncateText_clamped _ _) changed
      · exact derived

/-- Unloading the images of an item derives it further. -/
theorem derived_of_replaced {origin item : ChatHistoryItem} {historyIndex : Nat}
    {historyItems : List ChatHistoryItem} {restored : List String} {guardMessages : Int}
    {records stored : List JsonObject} {block : SessionMessageBlock}
    (replaced : replaceImagesWithUnloadPlaceholder env item historyIndex historyItems restored
      guardMessages records = .ok (some (block, stored)))
    (derived : Derived origin item) : Derived origin (.block block) := by
  obtain ⟨role, segments, unloadId, images, rfl, _, rebuilt⟩ := replaceImages_some replaced
  refine .unloaded derived ?_ rebuilt
  intro segment _ goes
  simp only [unloads, Bool.not_eq_false', Bool.and_eq_true, decide_eq_true_eq] at goes
  exact goes.1

/-! ## The pieces of the history -/

/-- The first index of the latest turn that the protected beginning does not reach. -/
def latestTurnStart (isSubSession : Bool) (input : List ChatHistoryItem) : Nat :=
  max (subSessionPrefixEnd isSubSession input) (input.length - latestTurnSuffixLength input)

/-- The head is the input's protected beginning, the tail its latest turn, and the middle is
derived in order from the items between them. -/
structure Pieces (isSubSession : Bool) (input head middle tail : List ChatHistoryItem) :
    Prop where
  head_kept : List.Forall₂ ItemKept
    (input.take (subSessionPrefixEnd isSubSession input)) head
  middle_derived : DerivedFrom Derived
    ((input.take (latestTurnStart isSubSession input)).drop
      (subSessionPrefixEnd isSubSession input)) middle
  tail_kept : List.Forall₂ ItemKept (input.drop (latestTurnStart isSubSession input)) tail

/-- The history consists of such pieces. -/
def Protects (isSubSession : Bool) (input history : List ChatHistoryItem) : Prop :=
  ∃ head middle tail, history = head ++ middle ++ tail ∧
    Pieces isSubSession input head middle tail

section Shape

variable {input history : List ChatHistoryItem} {isSubSession : Bool}

/-- The latest turn is no longer than the history. -/
theorem latestTurnSuffixLength_le (history : List ChatHistoryItem) :
    latestTurnSuffixLength history ≤ history.length := by
  have rounds := (List.takeWhile_sublist (l := history.reverse) ChatHistoryItem.isRound).length_le
  rw [List.length_reverse] at rounds
  unfold latestTurnSuffixLength
  dsimp only
  split <;> omega

/-- All items of the latest turn but its first are rounds. -/
theorem latestTurn_rounds (history : List ChatHistoryItem) :
    ∀ item ∈ history.drop (history.length - latestTurnSuffixLength history + 1),
      item.isRound = true := by
  intro item member
  let rounds := history.reverse.takeWhile ChatHistoryItem.isRound
  have parts : history =
      (history.reverse.dropWhile ChatHistoryItem.isRound).reverse ++ rounds.reverse := by
    rw [← List.reverse_append, List.takeWhile_append_dropWhile, List.reverse_reverse]
  have lengths := congrArg List.length parts
  rw [List.length_append, List.length_reverse, List.length_reverse] at lengths
  have late : history.drop (history.length - rounds.length) = rounds.reverse := by
    conv_lhs => rw [parts]
    exact List.drop_left' (by simp only [List.length_append, List.length_reverse]; omega)
  have later : history.length - rounds.length ≤
      history.length - latestTurnSuffixLength history + 1 := by
    have bound : latestTurnSuffixLength history ≤ rounds.length + 1 := by
      unfold latestTurnSuffixLength
      dsimp only
      split
      · exact Nat.le_refl _
      · exact Nat.le_succ _
    omega
  have inside : item ∈ rounds.reverse := by
    rw [← late]
    exact (List.drop_subset_drop_left history later) member
  exact List.mem_takeWhile_imp (List.mem_reverse.mp inside)

/-- An item and rounds after it at the end of a history lie in its latest turn. -/
theorem length_le_latestTurnSuffixLength {before tail : List ChatHistoryItem}
    (rounds : ∀ item ∈ tail.drop 1, item.isRound = true) :
    tail.length ≤ latestTurnSuffixLength (before ++ tail) := by
  cases tail with
  | nil => exact Nat.zero_le _
  | cons first rest =>
      have many : rest.length ≤
          ((before ++ first :: rest).reverse.takeWhile ChatHistoryItem.isRound).length := by
        have shape : (before ++ first :: rest).reverse = rest.reverse ++ first :: before.reverse := by
          simp
        rw [shape, List.takeWhile_append_of_pos
          (fun item member => rounds item (by simpa using member))]
        simp
      unfold latestTurnSuffixLength
      dsimp only
      split
      · simp only [List.length_cons]
        omega
      · next all =>
          simp only [List.length_append, List.length_cons] at all ⊢
          omega

/-- Histories of the same kinds have their first user message at one place. -/
theorem firstUser_congr {first second : List ChatHistoryItem}
    (same : List.Forall₂ SameKind first second) :
    first.findIdx? ChatHistoryItem.isUserBlock = second.findIdx? ChatHistoryItem.isUserBlock := by
  induction same with
  | nil => rfl
  | cons kind _ ih => rw [List.findIdx?_cons, List.findIdx?_cons, kind.2, ih]

/-- A kept item is of the same kind. -/
theorem ItemKept.sameKind {origin item : ChatHistoryItem} (kept : ItemKept origin item) :
    SameKind origin item :=
  (Derived.kept kept).sameKind

/-- Histories of the same kinds begin with equally many rounds. -/
theorem rounds_congr {first second : List ChatHistoryItem}
    (same : List.Forall₂ SameKind first second) :
    (first.takeWhile ChatHistoryItem.isRound).length =
      (second.takeWhile ChatHistoryItem.isRound).length := by
  induction same with
  | nil => rfl
  | cons kind _ ih =>
      rw [List.takeWhile_cons, List.takeWhile_cons, kind.1]
      split
      · rw [List.length_cons, List.length_cons, ih]
      · rfl

/-- Histories of the same kinds have latest turns of one length. -/
theorem latestTurnSuffixLength_congr {first second : List ChatHistoryItem}
    (same : List.Forall₂ SameKind first second) :
    latestTurnSuffixLength first = latestTurnSuffixLength second := by
  unfold latestTurnSuffixLength
  rw [rounds_congr (List.forall₂_reverse_iff.mpr same), same.length_eq]

/-- The first user message is found in what leads up to it. -/
theorem take_firstUser (history : List ChatHistoryItem) {idx : Nat}
    (found : history.findIdx? ChatHistoryItem.isUserBlock = some idx) :
    (history.take (idx + 1)).findIdx? ChatHistoryItem.isUserBlock = some idx := by
  obtain ⟨inside, _⟩ := List.findIdx?_eq_some_iff_getElem.mp found
  rw [← List.take_append_drop (idx + 1) history, List.findIdx?_append] at found
  cases early : (history.take (idx + 1)).findIdx? ChatHistoryItem.isUserBlock with
  | some first => rw [early] at found; exact found
  | none =>
      rw [early, Option.none_or] at found
      obtain ⟨later, _, same⟩ := Option.map_eq_some_iff.mp found
      rw [List.length_take] at same
      omega

/-- The first user message lies within the history. -/
theorem firstUserMessageExclusiveEnd_le (history : List ChatHistoryItem) :
    firstUserMessageExclusiveEnd history ≤ history.length := by
  unfold firstUserMessageExclusiveEnd
  split
  · next found => exact (List.findIdx?_eq_some_iff_getElem.mp found).1
  · exact Nat.zero_le _

/-- The protected prefix lies within the history. -/
theorem subSessionPrefixEnd_le (isSubSession : Bool) (history : List ChatHistoryItem) :
    subSessionPrefixEnd isSubSession history ≤ history.length := by
  unfold subSessionPrefixEnd
  split
  · exact firstUserMessageExclusiveEnd_le history
  · exact Nat.zero_le _

namespace Pieces

variable {head middle tail before after : List ChatHistoryItem} {item other : ChatHistoryItem}

/-- Every item of the history is derived from an item of the input. -/
theorem exists_origin (pieces : Pieces isSubSession input head middle tail)
    (member : item ∈ head ++ middle ++ tail) : ∃ origin ∈ input, Derived origin item := by
  rcases List.mem_append.mp member with early | late
  · rcases List.mem_append.mp early with first | between
    · obtain ⟨origin, inside, kept⟩ :=
        (DerivedFrom.of_forall₂ pieces.head_kept).exists_origin first
      exact ⟨origin, List.mem_of_mem_take inside, .kept kept⟩
    · obtain ⟨origin, inside, derived⟩ := pieces.middle_derived.exists_origin between
      exact ⟨origin, List.mem_of_mem_take (List.mem_of_mem_drop inside), derived⟩
  · obtain ⟨origin, inside, kept⟩ :=
      (DerivedFrom.of_forall₂ pieces.tail_kept).exists_origin late
    exact ⟨origin, List.mem_of_mem_drop inside, .kept kept⟩

/-- The head is the protected prefix. -/
theorem head_length (pieces : Pieces isSubSession input head middle tail) :
    head.length = subSessionPrefixEnd isSubSession input := by
  rw [← pieces.head_kept.length_eq, List.length_take]
  exact Nat.min_eq_left (subSessionPrefixEnd_le isSubSession input)

/-- The beginning that a sub-session protects is found again. -/
theorem prefixEnd (pieces : Pieces isSubSession input head middle tail) :
    subSessionPrefixEnd isSubSession (head ++ middle ++ tail) =
      subSessionPrefixEnd isSubSession input := by
  have origins : ∀ item ∈ head ++ middle ++ tail, ∃ origin ∈ input, Derived origin item :=
    fun item => pieces.exists_origin
  have kept := pieces.head_kept
  unfold subSessionPrefixEnd at *
  cases isSubSession with
  | false => rfl
  | true =>
      simp only [↓reduceIte, firstUserMessageExclusiveEnd] at *
      cases found : input.findIdx? ChatHistoryItem.isUserBlock with
      | some idx =>
          rw [found] at kept
          have first : head.findIdx? ChatHistoryItem.isUserBlock = some idx := by
            rw [← firstUser_congr (kept.imp fun _ _ => ItemKept.sameKind)]
            exact take_firstUser input found
          rw [List.append_assoc, List.findIdx?_append, first]
          rfl
      | none =>
          have no_user : ∀ item ∈ head ++ middle ++ tail, item.isUserBlock = false := by
            intro item member
            obtain ⟨origin, inside, derived⟩ := origins item member
            rw [← derived.sameKind.2]
            exact List.findIdx?_eq_none_iff.mp found origin inside
          rw [List.findIdx?_eq_none_iff.mpr no_user]

/-- The latest turn of the history covers the tail. -/
theorem tail_le (pieces : Pieces isSubSession input head middle tail) :
    tail.length ≤ latestTurnSuffixLength (head ++ middle ++ tail) := by
  refine length_le_latestTurnSuffixLength fun item member => ?_
  have late := List.forall₂_drop 1 pieces.tail_kept
  obtain ⟨origin, inside, kept⟩ := (DerivedFrom.of_forall₂ late).exists_origin member
  rw [← kept.sameKind.1]
  rw [List.drop_drop] at inside
  refine latestTurn_rounds input origin (List.drop_subset_drop_left input ?_ inside)
  have reaches : input.length - latestTurnSuffixLength input ≤
      latestTurnStart isSubSession input := Nat.le_max_right _ _
  omega

/-- An unprotected index of the history lies in the middle. -/
theorem split_middle (pieces : Pieces isSubSession input head middle tail) {idx : Nat}
    (unprotected : idx ∈ unprotectedIndices (head ++ middle ++ tail)
      (subSessionPrefixEnd isSubSession input)) :
    ∃ before item after, middle = before ++ item :: after ∧ idx = head.length + before.length := by
  obtain ⟨after_head, before_tail⟩ := mem_unprotectedIndices.mp unprotected
  have covered := pieces.tail_le
  simp only [List.length_append] at before_tail
  have inside : idx - head.length < middle.length := by
    rw [pieces.head_length] at before_tail ⊢
    omega
  refine ⟨middle.take (idx - head.length), middle[idx - head.length],
    middle.drop (idx - head.length + 1), ?_, ?_⟩
  · rw [List.getElem_cons_drop, List.take_append_drop]
  · rw [pieces.head_length] at inside ⊢
    rw [List.length_take]
    omega

/-- An item of the middle may be replaced by one that is derived from its origins. -/
theorem replace (pieces : Pieces isSubSession input head (before ++ item :: after) tail)
    (refined : ∀ origin, Derived origin item → Derived origin other) :
    Pieces isSubSession input head (before ++ other :: after) tail :=
  { pieces with middle_derived := pieces.middle_derived.replace refined }

/-- An item of the middle may be left out. -/
theorem erase (pieces : Pieces isSubSession input head (before ++ item :: after) tail) :
    Pieces isSubSession input head (before ++ after) tail :=
  { pieces with middle_derived := pieces.middle_derived.erase }

end Pieces

/-! ## The stages -/

/-- The latest turn starts after the protected prefix. -/
theorem latestTurnStart_ge (isSubSession : Bool) (input : List ChatHistoryItem) :
    subSessionPrefixEnd isSubSession input ≤ latestTurnStart isSubSession input :=
  Nat.le_max_left _ _

/-- A history is cut at two places. -/
theorem cut_in_pieces {first last : Nat} (ordered : first ≤ last) (history : List ChatHistoryItem) :
    history = history.take first ++ (history.take last).drop first ++ history.drop last := by
  have beginning : history.take first = (history.take last).take first := by
    rw [List.take_take, Nat.min_eq_left ordered]
  rw [beginning, List.take_append_drop, List.take_append_drop]

/-- A history protects its own ends. -/
theorem protects_refl (isSubSession : Bool) (input : List ChatHistoryItem) :
    Protects isSubSession input input :=
  ⟨_, _, _, cut_in_pieces (latestTurnStart_ge isSubSession input) input,
    { head_kept := List.forall₂_same.mpr fun item _ => .same item
      middle_derived := .of_forall₂ (List.forall₂_same.mpr fun item _ => .kept (.same item))
      tail_kept := List.forall₂_same.mpr fun item _ => .same item }⟩

section Truncation

variable (env : CompressionEnv) (config : CompressionConfig)

/-- Clamping takes no item away. -/
theorem length_truncateLargeItems (prefixEnd : Nat) :
    (truncateLargeItems env config input prefixEnd).length = input.length := by
  simp [truncateLargeItems]

/-- Protected items are kept by truncation. -/
theorem truncateLargeItems_kept {prefixEnd idx : Nat} (inside : idx < input.length)
    (made : idx < (truncateLargeItems env config input prefixEnd).length)
    (isProtected : input.length - latestTurnSuffixLength input ≤ idx ∨ idx < prefixEnd) :
    ItemKept input[idx] (truncateLargeItems env config input prefixEnd)[idx] := by
  simp only [truncateLargeItems, List.getElem_map, List.getElem_zipIdx, Nat.zero_add,
    if_pos isProtected]
  exact compressItem_kept env config _

/-- Each clamped item is derived from the item at its place. -/
theorem truncateLargeItems_derived {prefixEnd idx : Nat} (inside : idx < input.length)
    (made : idx < (truncateLargeItems env config input prefixEnd).length) :
    Derived input[idx] (truncateLargeItems env config input prefixEnd)[idx] := by
  simp only [truncateLargeItems, List.getElem_map, List.getElem_zipIdx]
  split
  · exact .kept (compressItem_kept env config _)
  · exact truncateItem_derived config (compressItem_kept env config _)

/-- Clamping keeps the kinds of the items. -/
theorem truncated_sameKind (input : List ChatHistoryItem) (prefixEnd : Nat) :
    List.Forall₂ SameKind input (truncateLargeItems env config input prefixEnd) := by
  refine List.forall₂_iff_get.mpr ⟨by simp [length_truncateLargeItems], fun idx inside made => ?_⟩
  exact (truncateLargeItems_derived env config inside made).sameKind

/-- What truncation makes of the input's three parts. -/
theorem truncated_pieces {history : List ChatHistoryItem} (isSubSession : Bool)
    (input : List ChatHistoryItem)
    (truncated : truncateLargeItems env config input (subSessionPrefixEnd isSubSession input) =
      history) :
    Pieces isSubSession input (history.take (subSessionPrefixEnd isSubSession input))
      ((history.take (latestTurnStart isSubSession input)).drop
        (subSessionPrefixEnd isSubSession input))
      (history.drop (latestTurnStart isSubSession input)) := by
  subst truncated
  refine ⟨?_, .of_forall₂ ?_, ?_⟩
  · refine List.forall₂_iff_get.mpr ⟨by simp [length_truncateLargeItems], fun idx before after => ?_⟩
    simp only [List.length_take] at before
    simp only [List.get_eq_getElem, List.getElem_take]
    simp only [List.length_take] at after
    exact truncateLargeItems_kept env config _ (by omega) (.inr (by omega))
  · refine List.forall₂_iff_get.mpr ⟨by simp [length_truncateLargeItems], fun idx before after => ?_⟩
    simp only [List.length_drop, List.length_take] at before
    simp only [List.get_eq_getElem, List.getElem_drop, List.getElem_take]
    simp only [List.length_drop, List.length_take] at after
    exact truncateLargeItems_derived env config _ (by omega)
  · refine List.forall₂_iff_get.mpr ⟨by simp [length_truncateLargeItems], fun idx before after => ?_⟩
    have reaches : input.length - latestTurnSuffixLength input ≤
        latestTurnStart isSubSession input := Nat.le_max_right _ _
    simp only [List.length_drop] at before
    simp only [List.get_eq_getElem, List.getElem_drop]
    simp only [List.length_drop] at after
    exact truncateLargeItems_kept env config _ (by omega) (.inl (by omega))

/-- Clamping protects both ends. -/
theorem truncated_protects (isSubSession : Bool) (input : List ChatHistoryItem) :
    Protects isSubSession input (truncateLargeItems env config input
      (subSessionPrefixEnd isSubSession input)) :=
  ⟨_, _, _, cut_in_pieces (latestTurnStart_ge isSubSession input) _,
    truncated_pieces env config isSubSession input rfl⟩

end Truncation

/-- The recent window covers the rounds at the end and the block before them. -/
theorem rounds_le_recentCount (limit : Int) (reversed : List ChatHistoryItem) (seen : Int) :
    (if (reversed.takeWhile ChatHistoryItem.isRound).length < reversed.length then
        (reversed.takeWhile ChatHistoryItem.isRound).length + 1
      else (reversed.takeWhile ChatHistoryItem.isRound).length) ≤
      recentCount limit seen reversed := by
  induction reversed generalizing seen with
  | nil => simp [recentCount]
  | cons item rest ih =>
      cases item with
      | round round =>
          have more := ih seen
          simp only [recentCount, List.takeWhile_cons, ChatHistoryItem.isRound, ↓reduceIte,
            List.length_cons] at more ⊢
          split at more <;> split <;> omega
      | block block =>
          simp only [recentCount, List.takeWhile_cons, ChatHistoryItem.isRound, Bool.false_eq_true,
            ↓reduceIte, List.length_nil, List.length_cons, Nat.zero_lt_succ]
          split <;> omega

/-- The recent window covers the latest turn. -/
theorem latestTurnSuffixLength_le_recentCount (limit : Int) (history : List ChatHistoryItem) :
    latestTurnSuffixLength history ≤ recentCount limit 0 history.reverse := by
  have covers := rounds_le_recentCount limit history.reverse 0
  rwa [List.length_reverse] at covers

/-- The recent window cuts off a beginning of the middle only. -/
theorem Pieces.recent {head middle tail : List ChatHistoryItem} (config : CompressionConfig)
    (pieces : Pieces isSubSession input head middle tail) :
    ∃ count, recentHistory isSubSession config (head ++ middle ++ tail) =
      head ++ middle.drop count ++ tail := by
  have covered := pieces.tail_le.trans
    (latestTurnSuffixLength_le_recentCount config.recencyWindow (head ++ middle ++ tail))
  have found := pieces.prefixEnd.trans pieces.head_length.symm
  have late : (head ++ middle ++ tail).length - recentCount config.recencyWindow 0
      (head ++ middle ++ tail).reverse ≤ head.length + middle.length := by
    simp only [List.length_append]
    omega
  unfold recentHistory keepRecentHistory
  dsimp only
  generalize (head ++ middle ++ tail).length - recentCount config.recencyWindow 0
    (head ++ middle ++ tail).reverse = tailStart at late ⊢
  cases isSubSession with
  | false =>
      have empty : head = [] := List.length_eq_zero_iff.mp found.symm
      subst empty
      simp only [List.length_nil, Nat.zero_add] at late
      refine ⟨tailStart, ?_⟩
      simp [List.drop_append_of_le_length late]
  | true =>
      simp only [subSessionPrefixEnd, ↓reduceIte] at found ⊢
      rw [found]
      split
      · refine ⟨max head.length tailStart - head.length, ?_⟩
        rw [List.append_assoc, List.take_left', List.drop_append, List.drop_append_of_le_length,
          List.drop_eq_nil_of_le, List.nil_append, List.append_assoc]
        all_goals omega
      · next zero =>
          have empty : head = [] := List.length_eq_zero_iff.mp (by omega)
          subst empty
          simp only [List.length_nil, Nat.zero_add] at late
          refine ⟨tailStart, ?_⟩
          simp [List.drop_append_of_le_length late]

/-- The recent window keeps the pieces. -/
theorem Protects.recent (config : CompressionConfig)
    (protects : Protects isSubSession input history) :
    Protects isSubSession input (recentHistory isSubSession config history) := by
  obtain ⟨head, middle, tail, rfl, pieces⟩ := protects
  obtain ⟨count, isRecent⟩ := pieces.recent config
  exact ⟨head, middle.drop count, tail, isRecent,
    { pieces with middle_derived := pieces.middle_derived.drop count }⟩

/-- A protected prefix stays as long as it is. -/
theorem Protects.prefixEnd (protects : Protects isSubSession input history) :
    subSessionPrefixEnd isSubSession history = subSessionPrefixEnd isSubSession input := by
  obtain ⟨head, middle, tail, rfl, pieces⟩ := protects
  exact pieces.prefixEnd

/-- An unloading step changes an item of the middle. -/
theorem Protects.unloaded {env : CompressionEnv} {next : List ChatHistoryItem}
    {guardMessages : Int} {records stored : List JsonObject}
    (protects : Protects isSubSession input history)
    (stepped : unloadOldestImageMessage env history (subSessionPrefixEnd isSubSession input)
      guardMessages records = .ok (some (next, stored))) :
    Protects isSubSession input next := by
  obtain ⟨head, middle, tail, rfl, pieces⟩ := protects
  unfold unloadOldestImageMessage at stepped
  split at stepped
  · cases stepped
  · split at stepped
    · cases stepped
    · obtain ⟨idx, item, block, unprotected, found, replaced, rfl⟩ := unloadAt_some stepped
      obtain ⟨before, own, after, rfl, rfl⟩ := pieces.split_middle unprotected
      have isOwn : own = item := by
        simpa [List.getElem?_append_right] using found
      subst isOwn
      exact ⟨head, before ++ .block block :: after, tail, by simp,
        pieces.replace fun origin => derived_of_replaced env replaced⟩

/-- A dropping step leaves out an item of the middle. -/
theorem Protects.dropped {idx : Nat} (protects : Protects isSubSession input history)
    (found : findDroppableIndex history (subSessionPrefixEnd isSubSession input) = some idx) :
    Protects isSubSession input (history.take idx ++ history.drop (idx + 1)) := by
  obtain ⟨head, middle, tail, rfl, pieces⟩ := protects
  obtain ⟨before, item, after, rfl, rfl⟩ :=
    pieces.split_middle (mem_unprotectedIndices.mpr (findDroppableIndex_some found))
  have parts : head ++ (before ++ item :: after) ++ tail =
      (head ++ before) ++ item :: (after ++ tail) := by simp
  refine ⟨head, before ++ after, tail, ?_, pieces.erase⟩
  rw [parts, ← List.length_append, List.take_left', List.drop_append, List.drop_eq_nil_of_le]
  · simp
  · omega
  · rfl

/-- The latest turn is kept, also where the protected beginning reaches into it. -/
theorem Protects.ends_with_latest (protects : Protects isSubSession input history) :
    ∃ before latest, history = before ++ latest ∧
      List.Forall₂ ItemKept (input.drop (input.length - latestTurnSuffixLength input)) latest := by
  obtain ⟨head, middle, tail, rfl, pieces⟩ := protects
  have latest := pieces.tail_kept
  have between := pieces.middle_derived
  unfold latestTurnStart at latest between
  rcases Nat.le_total (subSessionPrefixEnd isSubSession input)
    (input.length - latestTurnSuffixLength input) with apart | overlap
  · rw [Nat.max_eq_right apart] at latest
    exact ⟨head ++ middle, tail, rfl, latest⟩
  · rw [Nat.max_eq_left overlap] at latest between
    rw [List.drop_eq_nil_of_le (List.length_take_le _ _)] at between
    obtain ⟨kept, inside, related⟩ := between
    rw [List.sublist_nil.mp inside] at related
    cases related
    have whole : List.Forall₂ ItemKept input (head ++ tail) := by
      rw [← List.take_append_drop (subSessionPrefixEnd isSubSession input) input]
      exact List.rel_append pieces.head_kept latest
    refine ⟨(head ++ tail).take (input.length - latestTurnSuffixLength input), _, ?_,
      List.forall₂_drop _ whole⟩
    rw [List.append_nil, List.take_append_drop]

end Shape

section Hook

variable {env : CompressionEnv} {config : CompressionConfig} {contextBudget : Option Int}
  {payload : BeforeLlmCallHookPayload} {records stored : List JsonObject}
  {output : HookStageOutput BeforeLlmCallHookPayload}

/-- The hook hands on its payload, or the payload rebuilt from a history with the pieces. -/
theorem executeHook_output
    (ran : executeHook env config contextBudget payload records = .ok (output, stored)) :
    output.patchedPayload = some payload ∨ ∃ history, output = buildOutput payload history ∧
      Protects payload.turn.isSubSession payload.turn.historyItems history := by
  have truncated := truncated_protects env config payload.turn.isSubSession
    payload.turn.historyItems
  have recent := truncated.recent config
  unfold executeHook at ran
  dsimp only at ran
  split at ran
  · cases ran
    exact .inl rfl
  · split at ran
    · cases ran
      exact .inl rfl
    · split at ran
      · cases ran
        exact .inr ⟨_, rfl, truncated⟩
      · split at ran
        · cases ran
          exact .inr ⟨_, rfl, recent⟩
        · rw [recent.prefixEnd] at ran
          split at ran
          · cases ran
          · next unloaded stored unloading =>
              cases ran
              have kept := (unloadLoop_rule (motive := fun history _ =>
                Protects payload.turn.isSubSession payload.turn.historyItems history)
                (fun _ _ _ _ => Protects.unloaded) recent unloading).1
              exact .inr ⟨_, rfl, (dropLoop_rule _ _ _ (fun _ _ => Protects.dropped) kept).1⟩

/-- The hook protects both ends. -/
theorem executeHook_protects
    (ran : executeHook env config contextBudget payload records = .ok (output, stored)) :
    ∃ patched, output.patchedPayload = some patched ∧
      Protects payload.turn.isSubSession payload.turn.historyItems patched.turn.historyItems := by
  rcases executeHook_output ran with handed | ⟨history, rfl, protects⟩
  · exact ⟨payload, handed, protects_refl _ _⟩
  · exact ⟨_, rfl, protects⟩

/-- The hook's output consists of the beginning that a sub-session protects, items derived
from a subsequence of those between, and the latest turn. -/
theorem compression_protects
    (ran : executeHook env config contextBudget payload records = .ok (output, stored)) :
    ∃ patched, output.patchedPayload = some patched ∧
      Protects payload.turn.isSubSession payload.turn.historyItems patched.turn.historyItems ∧
      ∃ before latest, patched.turn.historyItems = before ++ latest ∧
        List.Forall₂ ItemKept (payload.turn.historyItems.drop (payload.turn.historyItems.length -
          latestTurnSuffixLength payload.turn.historyItems)) latest := by
  obtain ⟨patched, handed, protects⟩ := executeHook_protects ran
  exact ⟨patched, handed, protects, protects.ends_with_latest⟩

end Hook

/-- Every message counts one token, and everything outside works. -/
def sampleEnv : CompressionEnv where
  countMessages messages := messages.length
  countTools _ := 0
  digest text := text
  compressImageAvailable := false
  decodeBase64 _ := none
  encodeBase64 _ := ""
  compressImageBytes bytes mime _ := (bytes, mime)
  strOf _ := ""
  nowMs := 0
  readState := none
  writeState := none

/-- A message with a text. -/
def plainBlock (role : SessionMessageRole) (content : String) : ChatHistoryItem :=
  .block { role := role, body := .text content }

/-- A sub-session's instruction, two reports and a question. -/
def sampleHistory : List ChatHistoryItem :=
  [plainBlock .user "sort the files", plainBlock .assistant "looking",
    plainBlock .assistant "sorting", plainBlock .user "done?"]

/-- The payload of a sub-session with this history. -/
def samplePayload (historyItems : List ChatHistoryItem) : BeforeLlmCallHookPayload where
  turn := {
    llmMessages := assemble { text := "" } historyItems none
    historyItems := historyItems
    userTurn := none
    sessionId := "sub"
    taskType := "general"
    isSubSession := true }
  tools := []
  tokenBudget := some 3

/-- Without the reports the prompt fits. -/
theorem executeHook_reports :
    executeHook sampleEnv { recencyWindow := 1 } none (samplePayload sampleHistory) [] =
      .ok (buildOutput (samplePayload sampleHistory)
        [plainBlock .user "sort the files", plainBlock .user "done?"], []) := by
  rw [executeHook]
  dsimp only
  rw [if_neg (by decide), if_neg (by decide +kernel), if_neg (by decide +kernel),
    if_pos (by decide +kernel)]
  rfl

/-- The task and the latest message of the example stay. -/
theorem compression_protects_reports :
    ∃ patched, (buildOutput (samplePayload sampleHistory)
        [plainBlock .user "sort the files", plainBlock .user "done?"]).patchedPayload =
          some patched ∧
      Protects true sampleHistory patched.turn.historyItems ∧
      ∃ before latest, patched.turn.historyItems = before ++ latest ∧
        List.Forall₂ ItemKept [plainBlock .user "done?"] latest :=
  compression_protects executeHook_reports

end FairyClaw
