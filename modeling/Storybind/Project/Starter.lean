import Storybind.Value

/-!
The stories that new projects start with: a plain one, one that asks the reader, and one that shows
every kind of media.
-/

namespace Storybind

/-- What a new project starts with. -/
inductive Starter where
  | basic
  | interactive
  | mediaRich
deriving DecidableEq, Repr

namespace Starter

def word : Starter → String
  | .basic => "basic"
  | .interactive => "interactive"
  | .mediaRich => "media-rich"

/-- All starters. -/
def all : List Starter := [.basic, .interactive, .mediaRich]

/-- The starter of a name. -/
def named? (name : String) : Option Starter := all.find? fun s => s.word = name

/-- A story with one choice. -/
def basicStory (title description : String) : Value :=
  .record [
    ("title", .text title),
    ("description", .text description),
    ("variables", .record [("playerName", .text ""), ("courage", .int 0)]),
    ("scenes", .record [
      ("intro", .ofList [
        .text ("Welcome to " ++ title ++ "."),
        .record [
          ("speaker", .text "Guide"),
          ("say", .text "Every story starts with a single choice.")],
        .record [
          ("text", .text "Where do you want to go?"),
          ("choices", .ofList [
            .record [("text", .text "Into the forest"), ("goto", .text "forest")],
            .record [("text", .text "Back to the village"), ("goto", .text "village")]])]]),
      ("forest", .ofList [
        .text "The trees close in around you.",
        .record [
          ("actions", .ofList [
            .record [
              ("type", .text "addVar"),
              ("key", .text "courage"),
              ("value", .int 1)]])],
        .record [("goto", .text "ending")]]),
      ("village", .ofList [
        .text "The village is quiet tonight.",
        .record [("goto", .text "ending")]]),
      ("ending", .ofList [.text "Courage: \x7b\x7bcourage\x7d\x7d", .text "The End."])])]

/-- A story with input, flags and a branch. -/
def interactiveStory (title description : String) : Value :=
  .record [
    ("title", .text title),
    ("description", .text description),
    ("variables", .record [
      ("playerName", .text ""),
      ("trust", .int 0),
      ("visited_library", .bool false)]),
    ("scenes", .record [
      ("start", .ofList [
        .text "Before we begin, what should we call you?",
        .text "\x7b\x7binput:playerName:Your name:text\x7d\x7d",
        .record [
          ("speaker", .text "Archivist"),
          ("say", .text "Welcome, \x7b\x7bplayerName\x7d\x7d.")],
        .record [
          ("text", .text "The archive has two doors."),
          ("choices", .ofList [
            .record [
              ("text", .text "The library"),
              ("goto", .text "library"),
              ("actions", .ofList [
                .record [("type", .text "setFlag"), ("flag", .text "visited_library")]])],
            .record [("text", .text "The observatory"), ("goto", .text "observatory")]])]]),
      ("library", .ofList [
        .text "Dusty shelves stretch into the dark.",
        .record [
          ("actions", .ofList [
            .record [
              ("type", .text "addVar"),
              ("key", .text "trust"),
              ("value", .int 2)]])],
        .record [("goto", .text "crossroads")]]),
      ("observatory", .ofList [
        .text "A brass telescope points at a single star.",
        .record [
          ("actions", .ofList [
            .record [
              ("type", .text "addVar"),
              ("key", .text "trust"),
              ("value", .int 1)]])],
        .record [("goto", .text "crossroads")]]),
      ("crossroads", .ofList [
        .record [
          ("if", .text "trust gte 2"),
          ("then", .ofList [
            .record [
              ("speaker", .text "Archivist"),
              ("say", .text "You have earned the key.")]]),
          ("else", .ofList [
            .record [
              ("speaker", .text "Archivist"),
              ("say", .text "Come back when you know more.")]])],
        .record [
          ("actions", .ofList [.record [("type", .text "addTime"), ("minutes", .int 30)]])],
        .text "The End."])])]

/-- A story with an image, sound, a film and a component. -/
def mediaRichStory (title description : String) : Value :=
  .record [
    ("title", .text title),
    ("description", .text description),
    ("styles", .record [("theme", .text "modern")]),
    ("variables", .record [("chapter", .int 1)]),
    ("assets", .ofList [
      .record [
        ("name", .text "background-music"),
        ("url", .text "assets/audio/theme.mp3"),
        ("type", .text "audio")],
      .record [
        ("name", .text "intro-cutscene"),
        ("url", .text "assets/video/intro.mp4"),
        ("type", .text "video")]]),
    ("scenes", .record [
      ("intro", .ofList [
        .text "\x7b\x7bshowImage 'images_placeholder'\x7d\x7d",
        .text "\x7b\x7bplayAudio 'background-music'\x7d\x7d",
        .text "\x7b\x7bcomponent \"create\" \"SceneBadge\" \"./components/scene-badge.js\" \"\" \"badge\" \"label=Chapter,chapter=1\"\x7d\x7d",
        .record [("speaker", .text "Narrator"), ("say", .text "Media showcase scene.")],
        .record [("goto", .text "showcase")]]),
      ("showcase", .ofList [
        .text "\x7b\x7bplayVideo 'intro-cutscene'\x7d\x7d",
        .text "All media types in one scene!"])])]

/-- The story of a starter. -/
def story (s : Starter) (title description : String) : Value :=
  match s with
  | .basic => basicStory title description
  | .interactive => interactiveStory title description
  | .mediaRich => mediaRichStory title description

/-- The theme of a starter's story. -/
def theme : Starter → String
  | .mediaRich => "modern"
  | _ => "base"

end Starter
end Storybind
