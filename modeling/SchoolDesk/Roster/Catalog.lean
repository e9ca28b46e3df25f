import SchoolDesk.Roster.Basic

/-!
# The standard activities

The activities the school offers when the service starts: four for the mind,
three sports and three arts.
-/

namespace SchoolDesk.Roster

/-- The standard activities in the order in which they are listed. -/
def catalog : List (String × Activity) :=
  [("Chess Club",
    { description := "Learn strategies and compete in chess tournaments"
      schedule := "Fridays, 3:30 PM - 5:00 PM"
      capacity := 12
      participants := ["michael@mergington.edu", "daniel@mergington.edu"] }),
   ("Programming Class",
    { description := "Learn programming fundamentals and build software projects"
      schedule := "Tuesdays and Thursdays, 3:30 PM - 4:30 PM"
      capacity := 20
      participants := ["emma@mergington.edu", "sophia@mergington.edu"] }),
   ("Math Olympiad",
    { description := "Prepare for math competitions and solve challenging problems"
      schedule := "Wednesdays, 4:00 PM - 5:30 PM"
      capacity := 15 }),
   ("Science Club",
    { description := "Explore science experiments and participate in science fairs"
      schedule := "Mondays, 3:30 PM - 5:00 PM"
      capacity := 18 }),
   ("Gym Class",
    { description := "Physical education and sports activities"
      schedule := "Mondays, Wednesdays, Fridays, 2:00 PM - 3:00 PM"
      capacity := 30
      participants := ["john@mergington.edu", "olivia@mergington.edu"] }),
   ("Soccer Team",
    { description := "Join the school soccer team and compete in matches"
      schedule := "Tuesdays and Thursdays, 4:00 PM - 5:30 PM"
      capacity := 22 }),
   ("Basketball Club",
    { description := "Practice basketball skills and play friendly games"
      schedule := "Fridays, 5:00 PM - 6:30 PM"
      capacity := 20 }),
   ("Art Club",
    { description := "Explore painting, drawing, and other visual arts"
      schedule := "Thursdays, 3:30 PM - 5:00 PM"
      capacity := 16 }),
   ("Drama Society",
    { description := "Act in plays and learn about theater production"
      schedule := "Wednesdays, 5:00 PM - 6:30 PM"
      capacity := 14 }),
   ("Music Ensemble",
    { description := "Perform music in a group and learn new instruments"
      schedule := "Mondays, 4:00 PM - 5:30 PM"
      capacity := 12 })]

/-- The roster of the standard activities. -/
def standard : Roster := ofList catalog

end SchoolDesk.Roster
