import StatusPage.Config
import StatusPage.Notification.Dispatch

/-!
Messages by Telegram: a request to the bot's address with the chat and the text.
-/

set_option autoImplicit false

namespace StatusPage.Notification.Telegram

/-- The address of a bot's method; slashes at the end of the base do not count. -/
def url (config : Config.Telegram) : String :=
  let base := (config.apiBase.toList.reverse.dropWhile (· = '/')).reverse
  String.ofList base ++ "/bot" ++ config.botToken ++ "/sendMessage"

def text (message : Message) : String := message.subject ++ "\n\n" ++ message.body

def body (message : Message) : Json :=
  .object [("chat_id", .str message.recipient), ("text", .str (text message))]

end StatusPage.Notification.Telegram
