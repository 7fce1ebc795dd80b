import Playhouse.Data.Value

/-!
The traits that characters are cast from, and the ready-made costumes and scenarios.
-/
namespace Playhouse.Traits

def names : List String :=
  ["Alex", "Sam", "Jordan", "Taylor", "Casey", "Morgan", "Riley", "Quinn", "Robin", "Jamie",
    "Charlie", "Avery", "Parker", "Drew", "Sydney"]

def heights : List String :=
  ["5'0\" to 5'3\"", "5'4\" to 5'7\"", "5'8\" to 5'11\"", "6'0\" and above"]

def hairColors : List String :=
  ["brown", "black", "blonde", "red", "auburn", "dark brown", "light brown", "honey blonde",
    "platinum blonde"]

def eyeColors : List String := ["blue", "brown", "green", "hazel", "amber"]

def styles : List String :=
  ["casual and comfortable", "sporty and athletic", "professional and polished",
    "artistic and eclectic", "vintage inspired", "minimalist", "bohemian", "streetwear", "preppy",
    "business casual"]

def signatureItems : List String :=
  ["vintage camera", "leather messenger bag", "colorful scarf", "classic watch",
    "sketchbook and pencils", "sports water bottle", "wireless headphones", "hiking boots",
    "leather jacket", "favorite sneakers"]

def occupations : List String :=
  ["Teacher", "Chef", "Photographer", "Artist", "Engineer", "Doctor", "Writer", "Architect",
    "Musician", "Personal Trainer", "Software Developer", "Nurse", "Journalist",
    "Interior Designer", "Environmental Scientist"]

def communicationStyles : List String :=
  ["friendly and outgoing", "thoughtful and analytical", "enthusiastic and energetic",
    "calm and patient", "direct and confident", "creative and expressive",
    "empathetic and understanding", "professional and articulate"]

def challengeHandling : List String :=
  ["breaks big problems into smaller steps", "researches thoroughly before starting",
    "seeks advice from mentors", "creates detailed action plans", "stays positive under pressure",
    "learns from past experiences", "collaborates with others", "adapts quickly to changes"]

def hobbies : List String :=
  ["hiking", "cooking", "painting", "playing guitar", "gardening", "photography", "yoga",
    "rock climbing", "writing poetry", "woodworking", "pottery", "surfing", "bird watching",
    "learning languages", "cycling"]

def habits : List String :=
  ["always has a camera ready", "loves telling dad jokes", "hums while working",
    "collects interesting rocks", "names their plants", "always carries a book",
    "writes notes on coffee cups", "doodles during meetings", "remembers random facts",
    "loves trying new recipes"]

structure Costume where
  main : String
  accessories : String
  alternatives : String
  deriving DecidableEq

def costumes : List Costume := [
  { main := "Professional Business Attire"
    accessories := "leather briefcase, smart watch, classic tie"
    alternatives := "Business Casual, Conference Wear, Meeting Attire" },
  { main := "Creative Studio Outfit"
    accessories := "canvas apron, art supplies bag, comfortable shoes"
    alternatives := "Gallery Opening Attire, Workshop Wear, Paint Session Outfit" },
  { main := "Outdoor Adventure Gear"
    accessories := "hiking backpack, water bottle, trail map"
    alternatives := "Climbing Gear, Camping Outfit, Trail Running Attire" }]

structure Scenario where
  title : String
  description : String
  setting : String
  challenge : String
  goal : String
  deriving DecidableEq

def Scenario.fields (scenario : Scenario) : Fields :=
  [("title", .text scenario.title), ("description", .text scenario.description),
    ("setting", .text scenario.setting), ("challenge", .text scenario.challenge),
    ("goal", .text scenario.goal)]

def scenarios : List Scenario := [
  { title := "Romantic Cooking Challenge"
    description := "Create a gourmet meal together!"
    setting := "Cozy Kitchen"
    challenge := "Cook a three-course meal"
    goal := "Prepare a romantic dinner" },
  { title := "Sunset Photography Adventure"
    description := "Capture beautiful moments together!"
    setting := "Scenic Outdoor Location"
    challenge := "Find and photograph perfect sunset spots"
    goal := "Create lasting memories" },
  { title := "Art Gallery Mystery"
    description := "Solve the mystery of the missing masterpiece!"
    setting := "Local Art Gallery"
    challenge := "Follow clues and solve puzzles"
    goal := "Find the hidden artwork" }]

end Playhouse.Traits
